/-
  RowQuery — no removal of every row by accident.

  A removal is recognised as one without a condition by the text of its clause alone. The
  text is empty only where the request has no condition, so that a collection which refuses
  such removals never sends one, whatever else it is asked for and whatever the answers are.

  * `Statement.IsDelete`: a statement begins with the word DELETE;
  * `Operation.FromFactory`: an operation works on what a request was compiled to;
  * `Operation.removes_of_isDelete`: the statements of one operation;
  * `Collection.no_accidental_removal`: the statements of all runs.
-/
import RowQuery.Backend.Script
import RowQuery.Proofs.Collection.Sent
import RowQuery.Proofs.Statement.Clauses

namespace RowQuery

variable {σ : Type}

/-! ## Heads of statements -/

/-- A statement begins with the word DELETE. -/
def Statement.IsDelete (q : Statement) : Prop := "DELETE".toList <+: q.sql.toList

/-- A statement with another first letter is no removal. -/
theorem Statement.not_isDelete {q : Statement} {head : String} (clauses : List (Option String))
    (hq : q.sql = assemble head clauses) {a : Char} {word : List Char}
    (hhead : head.toList = a :: word) (ha : 'D' ≠ a) : ¬ q.IsDelete := by
  intro hdelete
  obtain ⟨rest, hrest⟩ := exists_assemble_eq head clauses
  rw [IsDelete, hq, hrest, String.toList_append, hhead] at hdelete
  exact ha (List.cons_prefix_cons.1 hdelete).1

/-! ## Requests without a condition -/

/-- **The clause of a removal has no text exactly if the request has no condition.** -/
theorem RemoveRequest.text_eq_empty_iff {r : RemoveRequest} {f : RemoveClauses}
    (h : r.compile = .ok f) : f.filter.text = "" ↔ r.condition = none := by
  rcases compile_eq_ok h with ⟨hr, rfl⟩ | ⟨cond, a, hr, -, rfl⟩
  · exact ⟨fun _ => hr, fun _ => rfl⟩
  · constructor
    · intro hempty
      exact absurd hempty a.filter_ne_empty
    · intro hnone
      rw [hr] at hnone
      cases hnone

/-- A request without a condition compiles to the clause without text. -/
theorem RemoveRequest.compile_of_none {r : RemoveRequest} (h : r.condition = none) :
    r.compile = .ok ⟨.empty⟩ := by
  rw [compile, h]
  rfl

namespace Collection

variable (c : Collection)

theorem deleteStatement_of_filter (a : Clause) :
    assemble c.deleteHead [some a.filter.text] =
      "DELETE FROM " ++ c.table ++ " WHERE " ++ a.text := by
  have hwhere : " WHERE " = " " ++ "WHERE " := rfl
  rw [assemble_some a.filter_ne_empty, hwhere]
  change "DELETE FROM " ++ c.table ++ " " ++ ("WHERE " ++ a.text) = _
  simp only [String.append_assoc]

/-- A removal without text is refused, or it removes every row. -/
theorem remove_empty :
    c.remove (.compiled ⟨.empty⟩) =
      if c.options.policy.unconditionedRemove = .refuse then
        .done (.error (.unconditionedRemove c.table))
      else c.removeAll := by
  rw [remove]
  cases c.options.policy.unconditionedRemove <;> rfl

end Collection

/-! ## Operations from requests -/

namespace Operation

/-- **An operation works on what a request was compiled to**, under any policy. -/
def FromFactory (op : Operation) : Prop := ∃ p d, Demand.compile p d = .ok op

/-- What is removed where a removal is sent: the rows of a condition that has at least one
    comparison, and the operation has its clause. -/
structure Removes (c : Collection) (op : Operation) (q : Statement) (cond : Condition)
    (clause : Clause) : Prop where
  compiled : cond.compile = .ok clause
  comparisons : cond.leaves ≠ []
  operation : op = .remove (.compiled ⟨clause.filter⟩)
  sql : q.sql = "DELETE FROM " ++ c.table ++ " WHERE " ++ clause.text
  values : q.values = cond.leaves.map Comparison.value

/-- **The removing statements of an operation from a request** remove the rows of its
    condition. -/
theorem removes_of_isDelete {c : Collection} {op : Operation} {q : Statement}
    (hc : c.options.policy.unconditionedRemove = .refuse) (hop : op.FromFactory)
    (hq : q ∈ op.statements c) (hd : q.IsDelete) : ∃ cond clause, op.Removes c q cond clause := by
  obtain ⟨p, d, hcompile⟩ := hop
  cases d with
  | find r =>
    obtain ⟨f, -, rfl⟩ := except_map_eq_ok.1 hcompile
    obtain rfl := List.mem_singleton.1 hq
    exact absurd hd (Statement.not_isDelete _ rfl String.toList_append (by decide))
  | count r =>
    obtain ⟨f, -, rfl⟩ := except_map_eq_ok.1 hcompile
    obtain rfl := List.mem_singleton.1 hq
    exact absurd hd (Statement.not_isDelete _ rfl String.toList_append (by decide))
  | aggregate r =>
    obtain ⟨f, -, rfl⟩ := except_map_eq_ok.1 hcompile
    obtain rfl := List.mem_singleton.1 hq
    have hhead : ("SELECT " ++ f.selectList ++ " FROM " ++ c.table).toList =
        'S' :: ("ELECT " ++ f.selectList ++ " FROM " ++ c.table).toList := by
      simp only [String.toList_append]
      rfl
    exact absurd hd (Statement.not_isDelete _ rfl hhead (by decide))
  | remove r =>
    obtain ⟨f, hf, rfl⟩ := except_map_eq_ok.1 hcompile
    rw [statements] at hq
    rcases RemoveRequest.compile_eq_ok hf with ⟨-, rfl⟩ | ⟨cond, clause, -, hcond, rfl⟩
    · rw [hc] at hq
      cases hq
    · rw [RemoveClauses.isUnconditioned_filter, Bool.false_and, if_neg Bool.false_ne_true] at hq
      obtain rfl := List.mem_singleton.1 hq
      have hvalues := Condition.values_of_compile hcond
      exact ⟨cond, clause, hcond, Condition.leaves_ne_nil_of_compile hcond, rfl,
        c.deleteStatement_of_filter clause, hvalues⟩
  | update r =>
    obtain ⟨fs, -, rfl⟩ := except_map_eq_ok.1 hcompile
    obtain ⟨f, -, rfl⟩ := List.mem_map.1 hq
    have hhead : ("UPDATE " ++ c.table ++ " SET " ++ f.set).toList =
        'U' :: ("PDATE " ++ c.table ++ " SET " ++ f.set).toList := by
      simp only [String.toList_append]
      rfl
    exact absurd hd (Statement.not_isDelete _ rfl hhead (by decide))
  | insert records =>
    obtain rfl := Except.ok.inj hcompile
    cases records with
    | nil => cases hq
    | cons r rs =>
      obtain rfl := List.mem_singleton.1 hq
      have hhead : (c.insertStatement r.keys (r :: rs)).sql.toList =
          'I' :: ("NSERT INTO " ++ c.table ++ " (" ++ ", ".intercalate r.keys ++ ") VALUES " ++
            ", ".intercalate (List.replicate (r :: rs).length
              (Collection.markGroup r.keys.length))).toList := by
        change ("INSERT INTO " ++ _ ++ _ ++ _ ++ _ ++ _).toList = _
        simp only [String.toList_append]
        rfl
      exact absurd hd (Statement.not_isDelete [] rfl hhead (by decide))

end Operation

/-! ## Runs -/

namespace Collection

/-- **No removal of every row by accident.** Where the policy refuses removals without a
    condition, each removing statement of a run, however long, has the condition of one of
    the operations, and this has a comparison. A clause without text tells exactly the
    requests without a condition; their removal is refused before anything is sent, or,
    where the policy wants it, it is the removal of all rows. -/
theorem no_accidental_removal (c : Collection) :
    (c.options.policy.unconditionedRemove = .refuse →
      ∀ ops : List Operation, (∀ op ∈ ops, op.FromFactory) →
        ∀ {σ : Type} (b : Backend σ) (s : σ) (channel : Channel) (q : Statement),
          (channel, q) ∈ ((Operation.inTurn c ops).run b s).sent → q.IsDelete →
            ∃ op ∈ ops, ∃ cond clause, op.Removes c q cond clause) ∧
    (∀ r : RemoveRequest, (∃ f, r.compile = .ok f ∧ f.filter.text = "") ↔ r.condition = none) ∧
    ∀ (r : RemoveRequest) (f : RemoveClauses), r.compile = .ok f → r.condition = none →
      (c.options.policy.unconditionedRemove = .refuse →
        ∀ {σ : Type} (b : Backend σ) (s : σ), (c.remove (.compiled f)).run b s =
          ⟨.error (.unconditionedRemove c.table), [], s⟩) ∧
      (c.options.policy.unconditionedRemove = .deleteAll →
        c.remove (.compiled f) = c.removeAll ∧
          ∀ {σ : Type} (b : Backend σ) (s : σ), ((c.remove (.compiled f)).run b s).sent =
            [(.pool, ⟨"DELETE FROM " ++ c.table, []⟩)]) := by
  refine ⟨?_, ?_, ?_⟩
  · intro hc ops hops σ b s channel q hsent hd
    obtain ⟨op, hop, hq⟩ := Operation.mem_statements_of_mem_sent hsent
    exact ⟨op, hop, Operation.removes_of_isDelete hc (hops op hop) hq hd⟩
  · intro r
    constructor
    · rintro ⟨f, hf, hempty⟩
      exact (RemoveRequest.text_eq_empty_iff hf).1 hempty
    · intro hr
      exact ⟨_, RemoveRequest.compile_of_none hr, rfl⟩
  · intro r f hf hr
    rw [RemoveRequest.compile_of_none hr] at hf
    obtain rfl := Except.ok.inj hf
    constructor
    · intro hrefuse σ b s
      rw [remove_empty, if_pos hrefuse]
      rfl
    · intro hall
      have hno : ¬ c.options.policy.unconditionedRemove = .refuse := by
        rw [hall]
        decide
      rw [remove_empty, if_neg hno]
      exact ⟨rfl, fun b s => sent_executeAnd c b s _ _⟩

/-- A removal between others that fail: one without a condition, and one whose statement the
    database refuses. -/
theorem no_accidental_removal_between_failures :
    let c : Collection := ⟨"items", .default⟩
    let clause : Clause := ⟨"id IN ?", [.list [.int 1, .int 2]]⟩
    let ops : List Operation := [.remove (.compiled ⟨.empty⟩), .insert [.ofList [("id", .int 1)]],
      .remove (.compiled ⟨clause.filter⟩)]
    let script : Script := ⟨[.error (.plain "locked")], none, none, none⟩
    let q : Statement := ⟨"DELETE FROM items WHERE id IN ?", [.list [.int 1, .int 2]]⟩
    (∀ op ∈ ops, op.FromFactory) ∧
      (.pool, q) ∈ ((Operation.inTurn c ops).run Script.backend script).sent ∧
      ∃ op ∈ ops, ∃ cond clause, op.Removes c q cond clause := by
  intro c clause ops script q
  have hops : ∀ op ∈ ops, op.FromFactory := by
    intro op hop
    simp only [ops, List.mem_cons, List.not_mem_nil, or_false] at hop
    rcases hop with rfl | rfl | rfl
    · exact ⟨.default, .remove ⟨none⟩, rfl⟩
    · exact ⟨.default, .insert [.ofList [("id", .int 1)]], rfl⟩
    · exact ⟨.default, .remove ⟨some (.leaf ⟨"id", .within, .list [.int 1, .int 2]⟩)⟩, rfl⟩
  have hsent : (.pool, q) ∈ ((Operation.inTurn c ops).run Script.backend script).sent :=
    List.mem_cons_of_mem _ List.mem_cons_self
  have hdelete : q.IsDelete := by
    rw [Statement.IsDelete]
    decide
  exact ⟨hops, hsent, (no_accidental_removal c).1 rfl ops hops _ _ _ q hsent hdelete⟩

end Collection

end RowQuery
