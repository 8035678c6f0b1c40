/-
  RowQuery — compiling a request as a dry run of running it.

  The clauses of a request that are printed tell what a run of the same request sends: the
  head of the operation, the texts that are printed and not empty, and the values beside
  them. Here the statements are read off the printed tree alone, which goes the other way
  than the collection, and the two are compared.

  * `RequestKind.statements`: the statements that a printed tree promises for a table;
  * `Clause.Finite`: the values of a clause survive being printed;
  * `Keeps`: a run keeps the promise of a dry run;
  * `run_keeps_compile`: all runs do, with the default policy and a database to talk to.
-/
import RowQuery.Cli.Program
import RowQuery.Proofs.Collection.Sent
import RowQuery.Proofs.Request.Compile
import RowQuery.Proofs.Request.RoundTrip

namespace RowQuery

variable {α β σ : Type}

/-! ## Printed trees -/

namespace Json

/-- The value of a key of an object. -/
def at? (key : String) : Json → Option Json
  | obj members => member? key members
  | _ => none

/-- The text of a key of an object. -/
def textAt? (key : String) (j : Json) : Option String := (j.at? key).bind string?

/-- The items of an array. -/
def items : Json → List Json
  | arr items => items
  | _ => []

/-- The texts in the array of a key of an object. -/
def textsAt (key : String) (j : Json) : List String :=
  ((j.at? key).map items).getD [] |>.filterMap string?

/-- The values in the array of a key of an object. -/
def valuesAt (key : String) (j : Json) : List Scalar :=
  (((j.at? key).map items).bind Scalar.ofJsonItems?).getD []

/-- The text of a printed WHERE clause. -/
def whereText? (j : Json) : Option String := (j.at? "where").bind (textAt? "text")

/-- The values of a printed WHERE clause. -/
def whereValues (j : Json) : List Scalar := ((j.at? "where").map (valuesAt "values")).getD []

end Json

namespace Cli.RequestKind

open Json

/-- The head of the statement of a kind. -/
def head (table : String) (output : Json) : RequestKind → String
  | find => "SELECT * FROM " ++ table
  | count => "SELECT COUNT(*) AS " ++ RowCount.column ++ " FROM " ++ table
  | remove => "DELETE FROM " ++ table
  | update => "UPDATE " ++ table ++ " SET " ++ ", ".intercalate (output.textsAt "assignments")
  | aggregate => "SELECT " ++ (output.textAt? "select_list").getD "" ++ " FROM " ++ table

/-- The texts of clauses, in the order of a statement. -/
def parts (output : Json) : RequestKind → List (Option String)
  | find => [output.whereText?, output.textAt? "order_by", output.textAt? "limit"]
  | aggregate => [output.whereText?, output.textAt? "group_by", output.textAt? "sort"]
  | count | remove | update => [output.whereText?]

/-- The values beside the texts, those of assignments first. -/
def values (output : Json) : RequestKind → List Scalar
  | update => output.valuesAt "values" ++ output.whereValues
  | find | count | remove | aggregate => output.whereValues

/-- A head, and after it the texts that are not empty. -/
def spaced (head : String) (parts : List (Option String)) : String :=
  " ".intercalate (head :: (parts.filterMap id).filter (· ≠ ""))

/-- The statement that a printed tree promises for a table. -/
def statement (kind : RequestKind) (table : String) (output : Json) : Statement :=
  ⟨spaced (kind.head table output) (kind.parts output), kind.values output⟩

/-- **The statements that are promised**: one, or one for each row update. -/
def statements (kind : RequestKind) (table : String) (output : Json) : List Statement :=
  if kind = update then output.items.map (kind.statement table) else [kind.statement table output]

/-- The operation of a request of a kind. -/
def operation (argument : String) : RequestKind → Operation
  | find => .find (.compiled argument)
  | count => .count (.compiled argument)
  | remove => .remove (.compiled argument)
  | update => .update (.compiled argument)
  | aggregate => .aggregate argument

theorem spaced_cons_text {head text : String} (h : text ≠ "") (parts : List (Option String)) :
    spaced head (some text :: parts) = spaced (head ++ " " ++ text) parts := by
  simp [spaced, h]

theorem assemble_eq_spaced (head : String) (parts : List (Option String)) :
    assemble head parts = spaced head parts := by
  induction parts generalizing head with
  | nil => simp [assemble, spaced]
  | cons part parts ih =>
    cases part with
    | none => simpa [assemble, spaced] using ih head
    | some text =>
      by_cases h : text = ""
      · subst h
        simpa [assemble, spaced] using ih head
      · rw [spaced_cons_text h, ← ih]
        simp [assemble, h]

end Cli.RequestKind

/-! ## Values that survive -/

theorem Scalar.allFinite_iff {ss : List Scalar} : AllFinite ss ↔ ∀ s ∈ ss, s.Finite := by
  induction ss with
  | nil => simp [AllFinite]
  | cons s ss ih => simp [AllFinite, ih]

/-- **The values of a clause are read back** from what is printed for them. -/
def Clause.Finite (a : Clause) : Prop := ∀ v ∈ a.values, v.Finite

theorem Json.valuesAt_listToJson {key : String} {vs : List Scalar} {j : Json}
    (h : j.at? key = some (Scalar.listToJson vs)) (hvs : ∀ v ∈ vs, v.Finite) :
    j.valuesAt key = vs := by
  rw [valuesAt, h, Scalar.listToJson]
  simp [items, Scalar.ofJsonItems?_itemsToJson (Scalar.allFinite_iff.2 hvs)]

theorem Json.whereValues_clause {j : Json} {a : Clause} (h : j.at? "where" = some a.toJson)
    (ha : a.Finite) : j.whereValues = a.values := by
  rw [whereValues, h, Option.map_some, Option.getD_some]
  exact valuesAt_listToJson rfl ha

theorem Json.whereText?_clause {j : Json} {a : Clause} (h : j.at? "where" = some a.toJson) :
    j.whereText? = some a.text := by
  rw [whereText?, h]
  rfl

theorem Condition.finite_of_compile {c : Condition} {a : Clause} (hc : c.Writable)
    (h : c.compile = .ok a) : a.filter.Finite := by
  intro v hv
  rw [Clause.filter, values_of_compile h] at hv
  obtain ⟨l, hl, rfl⟩ := List.mem_map.1 hv
  exact hc.finite l hl

theorem Condition.finite_of_filter? {o : Option Condition} {clause : Option Clause}
    (ho : ∀ c ∈ o, c.Writable) (h : filter? o = .ok clause) : ∀ a ∈ clause, a.Finite := by
  intro a ha
  rcases filter?_eq_ok h with ⟨-, rfl⟩ | ⟨c, a', rfl, hc, rfl⟩
  · cases ha
  · obtain rfl : a'.filter = a := by simpa using ha
    exact finite_of_compile (ho c rfl) hc

theorem Json.textAt?_ofOption {key : String} {j : Json} {o : Option String}
    (h : j.at? key = some (.ofOption .str o)) : j.textAt? key = o := by
  rw [textAt?, h]
  cases o <;> rfl

theorem Json.textsAt_strings {key : String} {j : Json} {ss : List String}
    (h : j.at? key = some (strings ss)) : j.textsAt key = ss := by
  have hstring : string? ∘ str = some := rfl
  rw [textsAt, h]
  simp only [strings, items, Option.map_some, Option.getD_some, List.filterMap_map, hstring,
    List.filterMap_some]

theorem Json.whereText?_ofOption {j : Json} {o : Option Clause}
    (h : j.at? "where" = some (.ofOption Clause.toJson o)) : j.whereText? = o.map Clause.text := by
  rw [whereText?, h]
  cases o <;> rfl

theorem Json.whereValues_ofOption {j : Json} {o : Option Clause}
    (h : j.at? "where" = some (.ofOption Clause.toJson o)) (ho : ∀ a ∈ o, a.Finite) :
    j.whereValues = o.elim [] Clause.values := by
  cases o with
  | none =>
    rw [whereValues, h]
    rfl
  | some a => exact whereValues_clause h (ho a rfl)

/-! ## Promised statements are those of the collection -/

namespace Cli.RequestKind

open Json

variable (c : Collection)

theorem statements_find {f : FindClauses} (h : ∀ a ∈ f.filter, a.Finite) :
    find.statements c.table f.toJson = [c.findStatement (.compiled f)] := by
  have htext : f.toJson.whereText? = f.filter.map Clause.text := whereText?_ofOption rfl
  have hvalues : f.toJson.whereValues = f.values := whereValues_ofOption rfl h
  have horder : f.toJson.textAt? "order_by" = f.orderBy := textAt?_ofOption rfl
  have hlimit : f.toJson.textAt? "limit" = f.limit := textAt?_ofOption rfl
  rw [Collection.findStatement, assemble_eq_spaced, ← htext, ← hvalues, ← horder, ← hlimit]
  rfl

theorem statements_count {f : CountClauses} (h : f.filter.Finite) :
    count.statements c.table f.toJson = [c.countStatement (.compiled f)] := by
  have htext : f.toJson.whereText? = some f.filter.text := whereText?_clause rfl
  have hvalues : f.toJson.whereValues = f.filter.values := whereValues_clause rfl h
  rw [Collection.countStatement, assemble_eq_spaced, ← htext, ← hvalues]
  rfl

theorem statements_remove {f : RemoveClauses} (h : f.filter.Finite) :
    remove.statements c.table f.toJson =
      [⟨assemble c.deleteHead [some f.filter.text], f.filter.values⟩] := by
  have htext : f.toJson.whereText? = some f.filter.text := whereText?_clause rfl
  have hvalues : f.toJson.whereValues = f.filter.values := whereValues_clause rfl h
  rw [Collection.deleteHead, assemble_eq_spaced, ← htext, ← hvalues]
  rfl

theorem statement_update {f : UpdateClauses} (h : f.filter.Finite) (hv : ∀ v ∈ f.values, v.Finite) :
    update.statement c.table f.toJson = c.updateStatement f := by
  have htext : f.toJson.whereText? = some f.filter.text := whereText?_clause rfl
  have hvalues : f.toJson.whereValues = f.filter.values := whereValues_clause rfl h
  have hset : f.toJson.valuesAt "values" = f.values := valuesAt_listToJson rfl hv
  have hassignments : f.toJson.textsAt "assignments" = f.assignments := textsAt_strings rfl
  rw [Collection.updateStatement, assemble_eq_spaced, UpdateClauses.set, UpdateClauses.bound,
    ← htext, ← hvalues, ← hset, ← hassignments]
  rfl

theorem statements_update {fs : List UpdateClauses}
    (h : ∀ f ∈ fs, f.filter.Finite ∧ ∀ v ∈ f.values, v.Finite) :
    update.statements c.table (.arr (fs.map UpdateClauses.toJson)) = fs.map c.updateStatement := by
  simp only [statements, items, if_true, List.map_map]
  apply List.map_congr_left
  intro f hf
  exact statement_update c (h f hf).1 (h f hf).2

theorem statements_aggregate {f : AggregateClauses} (h : ∀ a ∈ f.filter, a.Finite) :
    aggregate.statements c.table f.toJson = [c.aggregateStatement f] := by
  have htext : f.toJson.whereText? = f.filter.map Clause.text := whereText?_ofOption rfl
  have hvalues : f.toJson.whereValues = f.values := whereValues_ofOption rfl h
  have hselect : (f.toJson.textAt? "select_list").getD "" = f.selectList := rfl
  have hgroup : f.toJson.textAt? "group_by" = f.groupBy := textAt?_ofOption rfl
  have hsort : f.toJson.textAt? "sort" = f.orderBy := textAt?_ofOption rfl
  rw [Collection.aggregateStatement, assemble_eq_spaced, ← htext, ← hvalues, ← hselect, ← hgroup,
    ← hsort]
  rfl

end Cli.RequestKind

/-! ## What a request compiles to -/

theorem FindRequest.finite_of_compile {r : FindRequest} {f : FindClauses} (hr : r.Writable)
    (h : r.compile = .ok f) : ∀ a ∈ f.filter, a.Finite := by
  obtain ⟨clause, hclause, h⟩ := except_bind_eq_ok.1 h
  obtain rfl := Except.ok.inj h
  exact Condition.finite_of_filter? hr hclause

theorem CountRequest.finite_of_compile {r : CountRequest} {f : CountClauses} (hr : r.Writable)
    (h : r.compile = .ok f) : f.filter.Finite := by
  rcases compile_eq_ok h with ⟨-, hf⟩ | ⟨c, a, hc, ha, hf⟩
  · rw [hf]
    simp [Clause.Finite, Clause.filter, Clause.always]
  · rw [hf]
    exact Condition.finite_of_compile (hr c hc) ha

theorem RemoveRequest.finite_of_compile {r : RemoveRequest} {f : RemoveClauses} (hr : r.Writable)
    (h : r.compile = .ok f) : f.filter.Finite := by
  rcases compile_eq_ok h with ⟨-, rfl⟩ | ⟨c, a, hc, ha, rfl⟩
  · simp [Clause.Finite, Clause.empty]
  · exact Condition.finite_of_compile (hr c hc) ha

theorem UpdateRequest.finite_of_compile {r : UpdateRequest} {p : Policy} {fs : List UpdateClauses}
    (hr : r.Writable) (h : r.compile p = .ok fs) :
    ∀ f ∈ fs, f.filter.Finite ∧ ∀ v ∈ f.values, v.Finite := by
  intro f hf
  obtain ⟨e, he, hef⟩ := exists_of_forall₂ (compile_forall₂ h) hf
  obtain ⟨hfields, hcondition⟩ := mem_of_mem_pairs he
  obtain ⟨a, ha, rfl⟩ := Record.compileUpdate_eq_ok.1 hef
  exact ⟨Condition.finite_of_compile (hr.conditions _ hcondition) ha, hr.updates _ hfields⟩

theorem AggregateRequest.finite_of_compile {r : AggregateRequest} {f : AggregateClauses}
    (hr : r.Writable) (h : r.compile = .ok f) : ∀ a ∈ f.filter, a.Finite := by
  obtain ⟨clause, hclause, h⟩ := except_bind_eq_ok.1 h
  obtain rfl := Except.ok.inj h
  exact Condition.finite_of_filter? hr hclause

namespace Cli

variable {w : Surroundings}

theorem exists_tree_of_ofTextViaTree {d : Decoder α} {text : String} {a : α}
    (h : d.ofTextViaTree text = .ok a) : ∃ j, Json.ofText? text = some j ∧ d.ofTree j = .ok a := by
  rw [Decoder.ofTextViaTree] at h
  split at h
  · rename_i j hj
    cases ha : d.ofTree j with
    | error e => simp [ha, except_mapError_error] at h
    | ok a' =>
      rw [ha] at h
      cases h
      exact ⟨j, hj, ha⟩
  · cases h

theorem exists_tree_of_decodeArgument {d : Decoder α} {argument : String} {a : α}
    (h : decodeArgument w d argument = .ok a) :
    ∃ text j, Json.ofText? text = some j ∧ d.ofTree j = .ok a := by
  obtain ⟨text, -, h⟩ := except_bind_eq_ok.1 h
  split at h
  · rename_i a' ha
    cases h
    exact ⟨text, exists_tree_of_ofTextViaTree ha⟩
  · cases h
  · cases h

/-- **Clauses in an argument come from a request that can be written.** -/
theorem exists_request_of_clausesOf {d : Decoder α} {toJson : α → Json} {Good : α → Prop}
    (hd : d.RoundTrips toJson Good) {compile : α → Except RequestError β} {argument : String}
    {f : β} (h : clausesOf w d compile argument = .ok f) : ∃ r, Good r ∧ compile r = .ok f := by
  obtain ⟨r, hr, h⟩ := except_bind_eq_ok.1 h
  obtain ⟨_, j, -, hj⟩ := exists_tree_of_decodeArgument hr
  refine ⟨r, hd.yields hj, ?_⟩
  cases hc : compile r with
  | error e => rw [hc] at h; cases h
  | ok f' => rw [hc] at h; cases h; rfl

/-! ## Runs -/

/-- **A run keeps what a dry run has told**: it fails alike and sends nothing, or it sends
    the statements that are promised. A removal that is promised without a WHERE clause is
    refused. -/
structure Keeps (kind : RequestKind) (table : String) (dry : Except Failure Json)
    (o : Dialogue.Outcome (Except Failure Json) σ) : Prop where
  failed : ∀ f, dry = .error f → o.value = .error f ∧ o.log = []
  refused : ∀ output, dry = .ok output → kind = .remove → output.whereText? = some "" →
    o.value = .error (.ofStore (.unconditionedRemove table)) ∧ o.log = []
  sent : ∀ output, dry = .ok output → ¬ (kind = .remove ∧ output.whereText? = some "") →
    o.sent.map Prod.snd = kind.statements table output

variable {b : Backend σ} {s : σ} {kind : RequestKind} {table : String}

/-- The clauses of a request are the same for a dry run and a run, whatever is made of them. -/
theorem keeps_of_clauses {d : Decoder α} {ofRequest : α → Json} {Good : α → Prop}
    (hd : d.RoundTrips ofRequest Good) {compile : α → Except RequestError β} {toJson : β → Json}
    {next : β → Dialogue (Except Failure Json)} {argument : String}
    (refused : ∀ f, kind = .remove → (toJson f).whereText? = some "" →
      next f = .done (.error (.ofStore (.unconditionedRemove table))))
    (sent : ∀ r f, Good r → compile r = .ok f →
      ¬ (kind = .remove ∧ (toJson f).whereText? = some "") →
        ((next f).run b s).sent.map Prod.snd = kind.statements table (toJson f)) :
    Keeps kind table ((clausesOf w d compile argument).map toJson)
      ((orFail (clausesOf w d compile argument) next).run b s) := by
  cases hclauses : clausesOf w d compile argument with
  | error e =>
    constructor
    · intro f hf
      cases hf
      exact ⟨rfl, rfl⟩
    · intro output houtput
      cases houtput
    · intro output houtput
      cases houtput
  | ok f =>
    obtain ⟨r, hr, hf⟩ := exists_request_of_clausesOf hd hclauses
    constructor
    · intro e he
      cases he
    · intro output houtput hkind htext
      cases houtput
      rw [orFail, refused f hkind htext]
      exact ⟨rfl, rfl⟩
    · intro output houtput hno
      cases houtput
      exact sent r f hr hf hno

theorem run_resultOf (toJson : α → Json) (d : Dialogue (Except StoreError α)) :
    (resultOf toJson d).run b s =
      ⟨((d.run b s).value.map toJson).mapError Failure.ofStore, (d.run b s).log,
        (d.run b s).state⟩ :=
  d.run_bind_done _ b s

theorem sent_resultOf (toJson : α → Json) (d : Dialogue (Except StoreError α)) :
    ((resultOf toJson d).run b s).sent = (d.run b s).sent := by
  rw [run_resultOf]
  rfl

theorem orFail_map (e : Except Failure α) (f : α → β) (next : β → Dialogue (Except Failure Json)) :
    orFail (e.map f) next = orFail e fun a => next (f a) := by
  cases e <;> rfl

/-- The collection of a target without a policy file. -/
theorem collectionOf_default {t : Target} {n : Nat} (hpolicy : t.policyFile = none)
    (hn : connectionsOf w = .ok n) (hpos : n ≠ 0) :
    collectionOf w t = .ok ⟨t.table, ⟨t.primaryKey, .default⟩⟩ := by
  rw [collectionOf, hn, hpolicy]
  have hconnect : connect n = .ok () := if_neg hpos
  change (connect n >>= fun _ => _) = _
  rw [hconnect]
  rfl

/-- A removal of all rows is refused by default. -/
theorem refused_of_whereText? {c : Collection} (hc : c.options.policy = .default)
    {f : RemoveClauses} (h : f.toJson.whereText? = some "") :
    resultOf RemoveStats.toJson (c.remove (.compiled f)) =
      .done (.error (.ofStore (.unconditionedRemove c.table))) := by
  have htext : f.toJson.whereText? = some f.filter.text := Json.whereText?_clause rfl
  rw [htext, Option.some.injEq] at h
  have hrefused : c.remove (.compiled f) = .done (.error (.unconditionedRemove c.table)) := by
    simp [Collection.remove, RemoveClauses.isUnconditioned, Clause.isEmpty, h, hc, Policy.default]
  rw [hrefused]
  rfl

theorem sent_remove {c : Collection} {f : RemoveClauses} (h : f.toJson.whereText? ≠ some "") :
    ((c.remove (.compiled f)).run b s).sent =
      [(.pool, ⟨assemble c.deleteHead [some f.filter.text], f.filter.values⟩)] := by
  have htext : f.toJson.whereText? = some f.filter.text := Json.whereText?_clause rfl
  rw [htext, ne_eq, Option.some.injEq] at h
  rw [Collection.remove]
  simp [RemoveClauses.isUnconditioned, Clause.isEmpty, h, Collection.delete,
    Collection.sent_executeAnd]

theorem sent_update {c : Collection} {fs : List UpdateClauses}
    (hbegin : (b.control .begin s).1 = .ok ()) :
    ((c.update (.compiled fs)).run b s).sent.map Prod.snd = fs.map c.updateStatement := by
  have hbegins : (RowQuery.Operation.update (.compiled fs)).Begins b s := fun _ => hbegin
  have hsent := RowQuery.Operation.sent_of_begins c hbegins
  rw [RowQuery.Operation.dialogue, RowQuery.Operation.sent_answering] at hsent
  simp [hsent, RowQuery.Operation.statements]

/-- All runs of an operation on a collection with the default policy keep what its dry run
    has told. -/
theorem dialogue_keeps {c : Collection} (hc : c.options.policy = .default) (kind : RequestKind)
    (argument : String) (hbegin : (b.control .begin s).1 = .ok ()) :
    Keeps kind c.table (compiledJson w kind argument)
      (((kind.operation argument).dialogue w c).run b s) := by
  cases kind with
  | find =>
    rw [RequestKind.operation, Operation.dialogue, inputClauses, orFail_map]
    refine keeps_of_clauses roundTrips_findRequest (fun _ hkind => by cases hkind) ?_
    intro r f hr hf _
    rw [RequestKind.statements_find c (r.finite_of_compile hr hf), sent_resultOf]
    simp [Collection.find, Collection.sent_executeAnd]
  | count =>
    rw [RequestKind.operation, Operation.dialogue, inputClauses, orFail_map]
    refine keeps_of_clauses roundTrips_countRequest (fun _ hkind => by cases hkind) ?_
    intro r f hr hf _
    rw [RequestKind.statements_count c (r.finite_of_compile hr hf), sent_resultOf]
    simp [Collection.count, Collection.sent_executeAnd]
  | remove =>
    rw [RequestKind.operation, Operation.dialogue, inputClauses, orFail_map]
    refine keeps_of_clauses roundTrips_removeRequest
      (fun _ _ htext => refused_of_whereText? hc htext) ?_
    intro r f hr hf hno
    have htext : f.toJson.whereText? ≠ some "" := fun h => hno ⟨rfl, h⟩
    rw [RequestKind.statements_remove c (r.finite_of_compile hr hf), sent_resultOf,
      sent_remove htext]
    rfl
  | update =>
    rw [RequestKind.operation, Operation.dialogue, inputClauses, orFail_map, hc]
    refine keeps_of_clauses roundTrips_updateRequest (fun _ hkind => by cases hkind) ?_
    intro r fs hr hf _
    rw [RequestKind.statements_update c (r.finite_of_compile hr hf), sent_resultOf,
      sent_update hbegin]
  | aggregate =>
    rw [RequestKind.operation, Operation.dialogue]
    refine keeps_of_clauses roundTrips_aggregateRequest (fun _ hkind => by cases hkind) ?_
    intro r f hr hf _
    rw [RequestKind.statements_aggregate c (r.finite_of_compile hr hf), sent_resultOf]
    simp [Collection.aggregate, Collection.sent_executeAnd]

/-- **Compiling a request is a faithful dry run of running it**, for all kinds of requests,
    texts and tables, without a policy file. -/
theorem run_keeps_compile (w : Surroundings) (kind : RequestKind) (argument : String) (t : Target)
    {n : Nat} (hpolicy : t.policyFile = none) (hn : connectionsOf w = .ok n) (hpos : n ≠ 0)
    (b : Backend σ) (s : σ) (hbegin : (b.control .begin s).1 = .ok ()) :
    Keeps kind t.table (((Task.compile kind argument).dialogue w).run b s).value
      (((Task.run t (kind.operation argument)).dialogue w).run b s) := by
  rw [Task.dialogue, Task.dialogue, collectionOf_default hpolicy hn hpos, orFail]
  exact dialogue_keeps (c := ⟨t.table, ⟨t.primaryKey, .default⟩⟩) rfl kind argument hbegin

/-- The dry run of an update of two rows, and the two statements that it promises. -/
theorem run_keeps_compile_two_rows :
    let w : Surroundings := ⟨fun _ => .error "no file", fun _ => none⟩
    let t : Target := ⟨"items", "id", none⟩
    let text := "[[\x7b\"qty\":1\x7d,\x7b\"qty\":2\x7d]," ++
      "[\x7b\"field\":\"id\",\"operator\":\"eq\",\"value\":7\x7d]]"
    let dry := ((Task.compile .update text).dialogue w).run Script.backend .empty
    let o := ((Task.run t (RequestKind.operation text .update)).dialogue w).run Script.backend .empty
    t.policyFile = none ∧ connectionsOf w = .ok 5 ∧ (5 : Nat) ≠ 0 ∧
      (Script.backend.control .begin .empty).1 = .ok () ∧
      Keeps .update t.table dry.value o ∧
      o.sent.map Prod.snd =
        [⟨"UPDATE items SET qty = ? WHERE id = ?", [.int 1, .int 7]⟩,
          ⟨"UPDATE items SET qty = ? WHERE id = ?", [.int 2, .int 7]⟩] := by
  intro w t text dry o
  have hconnections : connectionsOf w = .ok 5 := rfl
  exact ⟨rfl, hconnections, by decide, rfl,
    run_keeps_compile w .update text t rfl hconnections (by decide) Script.backend .empty rfl,
    by decide +kernel⟩

end Cli

end RowQuery
