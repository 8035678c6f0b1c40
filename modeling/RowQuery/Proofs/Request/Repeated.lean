/-
  RowQuery — sort orders and records in which a field is set more than once.

  A sort order is made by calls, a record by pairs, and both by reading an object. On all of
  these routes a field that is set again keeps its first place and takes what it is set to
  last, and so it is in the texts and the values that are made of them.

  * `SortOrder.ofCalls`: the sort order of calls;
  * `SortOrder.Settled`, `Record.Settled`: what becomes of calls and of pairs;
  * `fields_set_again_settle`: **each field once, where it came first, with what came last**.
-/
import RowQuery.Proofs.Collection.Matrix
import RowQuery.Proofs.Decode.Members
import RowQuery.Proofs.Json.Values
import RowQuery.Proofs.Request.Pairing
import RowQuery.Proofs.Request.RoundTrip
import RowQuery.Proofs.Statement.Clauses

namespace RowQuery

open Decoder

/-! ## Sort orders -/

namespace SortOrder

/-- A call, which sorts by a field in a direction. -/
def call (s : SortOrder) : String × Direction → SortOrder
  | (field, .asc) => s.asc field
  | (field, .desc) => s.desc field

/-- The sort order of calls, made one after the other on the empty one. -/
def ofCalls (calls : List (String × Direction)) : SortOrder := calls.foldl call .empty

theorem ofCalls_eq_ofList (calls : List (String × Direction)) :
    ofCalls calls = .ofList calls := by
  have hcall : call = fun s e => s.insert e.1 e.2 := by
    funext s e
    obtain ⟨field, _ | _⟩ := e <;> rfl
  rw [ofCalls, hcall]
  rfl

/-- **What becomes of calls.** `fields` is what is left of them. -/
structure Settled (calls fields : List (String × Direction)) : Prop where
  settles : Settles calls fields
  /-- The ORDER BY clause lists what is left, if there were any calls. -/
  orderBy : (ofCalls calls).orderBy? = if calls = [] then none else
    some ("ORDER BY " ++ ", ".intercalate (fields.map fun e => e.1 ++ " " ++ e.2.sql))
  /-- It is the clause of a find, which compiles if its condition does. -/
  find : ∀ r : FindRequest, r.sort = some (ofCalls calls) →
    r.compile.map FindClauses.orderBy =
      (Condition.filter? r.condition).map fun _ => (ofCalls calls).orderBy?
  /-- It is the clause of an aggregate, which compiles if its condition does. -/
  aggregate : ∀ r : AggregateRequest, r.sort = some (ofCalls calls) →
    r.compile.map AggregateClauses.orderBy =
      (Condition.filter? r.condition).map fun _ => (ofCalls calls).orderBy?
  /-- A text of an object with the calls as its members is read as their sort order. -/
  ofText : ∀ {text : String}, Direction.decoder.Spells text calls →
    SortOrder.decoder.ofText text = .ok (ofCalls calls)
  ofTextViaTree : ∀ {text : String}, Direction.decoder.Spells text calls →
    SortOrder.decoder.ofTextViaTree text = .ok (ofCalls calls)
  /-- There is such a text. -/
  spelled : Direction.decoder.Spells
    (Json.obj (calls.map fun e => (e.1, e.2.toJson))).compact calls

theorem isEmpty_ofList (calls : List (String × Direction)) :
    (OrderedMap.ofList calls).isEmpty = calls.isEmpty := by
  have hkeys := OrderedMap.keys_ofList calls
  cases calls with
  | nil => rfl
  | cons call calls =>
    rw [OrderedMap.isEmpty, List.isEmpty_cons, List.isEmpty_eq_false_iff]
    intro hnil
    rw [OrderedMap.keys, hnil, List.map_cons, List.eraseDups_cons] at hkeys
    cases hkeys

theorem spells_compact (calls : List (String × Direction)) :
    Direction.decoder.Spells (Json.obj (calls.map fun e => (e.1, e.2.toJson))).compact calls := by
  refine roundTrips_direction.spells_compact (fun _ _ => True.intro) ?_ ?_ ?_
  · induction calls with
    | nil => exact True.intro
    | cons call calls ih => exact ⟨True.intro, ih⟩
  · induction calls with
    | nil => exact True.intro
    | cons call calls ih => exact ⟨Number.readsBack_int _ _, ih⟩
  · have hmembers : Json.memberNesting (calls.map fun e => (e.1, e.2.toJson)) = 0 := by
      induction calls with
      | nil => rfl
      | cons call calls ih =>
        rw [List.map_cons, Json.memberNesting, ih]
        rfl
    rw [Json.nesting, hmembers]
    decide

theorem settled (calls : List (String × Direction)) :
    Settled calls (ofCalls calls).entries where
  settles := ofCalls_eq_ofList calls ▸ OrderedMap.settles_ofList calls
  orderBy := by
    rw [orderBy?, ofCalls_eq_ofList, isEmpty_ofList]
    simp only [List.isEmpty_iff]
  find r hr := by
    rw [FindRequest.compile, hr]
    cases Condition.filter? r.condition <;> rfl
  aggregate r hr := by
    rw [AggregateRequest.compile, hr]
    cases Condition.filter? r.condition <;> rfl
  ofText h := ofCalls_eq_ofList calls ▸ h.ofText
  ofTextViaTree h := ofCalls_eq_ofList calls ▸ h.ofTextViaTree
  spelled := spells_compact calls

end SortOrder

/-! ## Records -/

namespace Record

/-- **What becomes of pairs.** `fields` is what is left of them. -/
structure Settled (pairs fields : List (String × Scalar)) : Prop where
  settles : Settles pairs fields
  /-- A payload that is made from the pairs assigns what is left of them. -/
  assigns : ∀ {p : Policy} {r : UpdateRequest} {fs : List UpdateClauses} {i : Nat},
    r.compile p = .ok fs → r.updates[i]? = some (.ofList pairs) →
      ∃ f, fs[i]? = some f ∧ f.assignments = fields.map (fun e => e.1 ++ " = ?") ∧
        f.values = fields.map Prod.snd
  /-- The statement of such an update has the assignments after SET, and their values before
      those of its condition. -/
  updates : ∀ (c : Collection) (f : UpdateClauses),
    f.assignments = fields.map (fun e => e.1 ++ " = ?") → f.values = fields.map Prod.snd →
      (∃ rest, (c.updateStatement f).sql = "UPDATE " ++ c.table ++ " SET " ++
        ", ".intercalate (fields.map fun e => e.1 ++ " = ?") ++ rest) ∧
      (c.updateStatement f).values = fields.map Prod.snd ++ f.filter.values
  /-- An insertion whose first record is made from the pairs has what is left of them as its
      columns, and binds their values first. -/
  inserts : ∀ (σ : Type) (c : Collection) (others : List Record) (b : Backend σ) (s : σ),
    ∃ q, ((c.insert (.ofList pairs :: others)).run b s).log = [.query .pool q] ∧
      q.sql = "INSERT INTO " ++ c.table ++ " (" ++ ", ".intercalate (fields.map Prod.fst) ++
        ") VALUES " ++ ", ".intercalate (List.replicate (others.length + 1)
          (Collection.markGroup fields.length)) ∧
      q.values = fields.map Prod.snd ++
        others.flatMap fun r => fields.map fun e => (r.get? e.1).getD .null
  /-- A text of an object with the pairs as its members is read as their record. -/
  ofText : ∀ {text : String}, Decoder.scalar.Spells text pairs →
    Record.decoder.ofText text = .ok (.ofList pairs)
  ofTextViaTree : ∀ {text : String}, Decoder.scalar.Spells text pairs →
    Record.decoder.ofTextViaTree text = .ok (.ofList pairs)
  /-- There is such a text, if no value has a double in it or is nested too deep. -/
  spelled : (∀ e ∈ pairs, e.2.FloatFree) →
    (Json.obj (pairs.map fun e => (e.1, e.2.toJson))).nesting ≤ Json.maxDepth →
      Decoder.scalar.Spells (Json.obj (pairs.map fun e => (e.1, e.2.toJson))).compact pairs

theorem inserts_entries (r : Record) (c : Collection) (others : List Record) :
    (c.insertStatement r.keys (r :: others)).values = r.entries.map Prod.snd ++
      others.flatMap fun r' => r.entries.map fun e => (r'.get? e.1).getD .null := by
  have hfirst : r.keys.map (fun k => (r.get? k).getD .null) = r.entries.map Prod.snd := by
    have hmap := congrArg (List.map fun v : Option Scalar => v.getD .null) r.map_get?_keys
    rw [List.map_map, List.map_map] at hmap
    exact hmap.trans (List.map_id _)
  have hothers : ∀ r' : Record, r.keys.map (fun k => (r'.get? k).getD .null) =
      r.entries.map fun e => (r'.get? e.1).getD .null := fun r' => List.map_map
  rw [Collection.insertStatement, List.flatMap_cons, hfirst]
  simp only [hothers]

theorem settled (pairs : List (String × Scalar)) :
    Settled pairs (OrderedMap.ofList pairs).entries where
  settles := OrderedMap.settles_ofList pairs
  assigns {p r fs i} h hi := by
    have hlength : i < fs.length := by
      rw [UpdateRequest.length_of_compile h]
      exact (List.getElem?_eq_some_iff.1 hi).1
    have hf := List.getElem?_eq_getElem hlength
    obtain ⟨own, c, hown, -, hrow⟩ := UpdateRequest.row_of_compile h hf
    obtain rfl := Option.some.inj (hi.symm.trans hown)
    obtain ⟨clause, -, hclause⟩ := compileUpdate_eq_ok.1 hrow
    rw [hf, hclause]
    exact ⟨_, rfl, List.map_map, rfl⟩
  updates c f hassignments hvalues := by
    rw [Collection.updateStatement, UpdateClauses.set, hassignments, UpdateClauses.bound, hvalues]
    exact ⟨exists_assemble_eq _ _, rfl⟩
  inserts σ c others b s := by
    refine ⟨_, by rw [Collection.run_insert], ?_, inserts_entries _ c others⟩
    rw [Collection.insertStatement, OrderedMap.keys, List.length_map]
    rfl
  ofText h := h.ofText
  ofTextViaTree h := h.ofTextViaTree
  spelled hfree hdepth := roundTrips_scalar.spells_compact (fun e he => (hfree e he).fewDigits.finite)
    (membersDistinctKeys_toJson pairs) (membersReadBack_toJson hfree) hdepth

end Record

/-! ## Both -/

/-- **Each field once, where it came first, with what came last.** So it is for the calls that
    a sort order is made with and its ORDER BY clause, and for the pairs that a record is made
    from, its assignments and its columns; an object with the same members, repeats included,
    is read as the same sort order and the same record. -/
theorem fields_set_again_settle :
    (∀ calls, SortOrder.Settled calls (SortOrder.ofCalls calls).entries) ∧
      ∀ pairs, Record.Settled pairs (OrderedMap.ofList pairs).entries :=
  ⟨SortOrder.settled, Record.settled⟩

/-- A field that is sorted by twice, a value that is set again, and objects with such
    members. -/
theorem fields_set_again_settle_in_place :
    let calls := [("qty", Direction.desc), ("name", .asc), ("qty", .asc)]
    let pairs := [("a", Scalar.int 1), ("b", .null), ("a", .text "x")]
    (SortOrder.ofCalls calls).orderBy? = some "ORDER BY qty ASC, name ASC" ∧
      SortOrder.decoder.ofText "\x7b\"qty\":-1,\"name\":1,\"qty\":1\x7d" =
        .ok (SortOrder.ofCalls calls) ∧
      (OrderedMap.ofList pairs).entries = [("a", .text "x"), ("b", .null)] ∧
      Record.decoder.ofTextViaTree "\x7b\"a\":1,\"b\":null,\"a\":\"x\"\x7d" =
        .ok (.ofList pairs) := by
  intro calls pairs
  have hcalls := fields_set_again_settle.1 calls
  have hpairs := fields_set_again_settle.2 pairs
  have hfree : ∀ e ∈ pairs, e.2.FloatFree := by simp [pairs, Scalar.FloatFree]
  have hdepth : (Json.obj (pairs.map fun e => (e.1, e.2.toJson))).nesting ≤ Json.maxDepth := by
    decide
  exact ⟨hcalls.orderBy, hcalls.ofText hcalls.spelled, by decide,
    hpairs.ofTextViaTree (hpairs.spelled hfree hdepth)⟩

end RowQuery
