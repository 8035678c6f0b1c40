/-
  RowQuery — what requests compile to.

  * `Condition.filter?_eq_ok`, `CountRequest.compile_eq_ok`, `RemoveRequest.compile_eq_ok`,
    `Record.compileUpdate_eq_ok`: what clauses a compilation that succeeds ends with;
  * `UpdateRequest.pairs` are the row updates of an update, and `compile_forall₂` says that
    it compiles to one of each, in order.
-/
import RowQuery.Proofs.Condition.Compile
import RowQuery.Proofs.Pointwise
import RowQuery.Request.Clauses

namespace RowQuery

theorem Condition.filter?_eq_ok {o : Option Condition} {clause : Option Clause}
    (h : Condition.filter? o = .ok clause) :
    (o = none ∧ clause = none) ∨
      ∃ c a, o = some c ∧ c.compile = .ok a ∧ clause = some a.filter := by
  cases o with
  | none =>
    cases h
    exact Or.inl ⟨rfl, rfl⟩
  | some c =>
    rw [Condition.filter?] at h
    cases hc : c.compile with
    | error e =>
      rw [hc] at h
      cases h
    | ok a =>
      rw [hc] at h
      exact Or.inr ⟨c, a, rfl, hc, (Except.ok.inj h).symm⟩

theorem CountRequest.compile_eq_ok {r : CountRequest} {f : CountClauses}
    (h : r.compile = .ok f) :
    (r.condition = none ∧ f.filter = Clause.always.filter) ∨
      ∃ c a, r.condition = some c ∧ c.compile = .ok a ∧ f.filter = a.filter := by
  rw [compile] at h
  cases hr : r.condition with
  | none =>
    rw [hr] at h
    obtain rfl := Except.ok.inj h
    exact Or.inl ⟨rfl, rfl⟩
  | some c =>
    rw [hr, Condition.compileOrAlways] at h
    cases hc : c.compile with
    | error e =>
      rw [hc] at h
      cases h
    | ok a =>
      rw [hc] at h
      obtain rfl := Except.ok.inj h
      exact Or.inr ⟨c, a, rfl, hc, rfl⟩

theorem RemoveRequest.compile_eq_ok {r : RemoveRequest} {f : RemoveClauses}
    (h : r.compile = .ok f) :
    (r.condition = none ∧ f = ⟨.empty⟩) ∨
      ∃ c a, r.condition = some c ∧ c.compile = .ok a ∧ f = ⟨a.filter⟩ := by
  obtain ⟨clause, hclause, hf⟩ := except_bind_eq_ok.1 h
  obtain rfl := Except.ok.inj hf
  rcases Condition.filter?_eq_ok hclause with ⟨hr, rfl⟩ | ⟨c, a, hr, hc, rfl⟩
  · exact Or.inl ⟨hr, rfl⟩
  · exact Or.inr ⟨c, a, hr, hc, rfl⟩

/-! ## Updates -/

/-- The payloads of an update and their conditions: those beyond the last condition go with
    the last. -/
def UpdateRequest.pairs (r : UpdateRequest) : List (Record × Condition) :=
  match r.conditions.getLast? with
  | some last => r.updates.zipIdx.map fun e => (e.1, r.conditions[e.2]?.getD last)
  | none => []

theorem UpdateRequest.mem_of_mem_pairs {r : UpdateRequest} {e : Record × Condition}
    (h : e ∈ r.pairs) : e.1 ∈ r.updates ∧ e.2 ∈ r.conditions := by
  rw [pairs] at h
  cases hl : r.conditions.getLast? with
  | none => rw [hl] at h; cases h
  | some last =>
    rw [hl] at h
    obtain ⟨⟨fields, i⟩, he, rfl⟩ := List.mem_map.1 h
    refine ⟨(List.mem_zipIdx' he).2 ▸ List.getElem_mem _, ?_⟩
    cases hi : r.conditions[i]? with
    | none => exact List.mem_of_getLast? hl
    | some cond => exact List.mem_of_getElem? hi

theorem Record.compileUpdate_eq_ok {r : Record} {c : Condition} {f : UpdateClauses} :
    r.compileUpdate c = .ok f ↔
      ∃ a, c.compile = .ok a ∧ f = ⟨r.keys.map (· ++ " = ?"), r.values, a.filter⟩ := by
  rw [compileUpdate]
  constructor
  · intro h
    cases hc : c.compile with
    | error e =>
      rw [hc] at h
      cases h
    | ok a =>
      rw [hc] at h
      exact ⟨a, rfl, (Except.ok.inj h).symm⟩
  · rintro ⟨a, hc, rfl⟩
    rw [hc]

/-- The condition of a payload is its own if there is one, and else the last. -/
theorem Policy.conditionFor_eq_ok {p : Policy} {conditions : List Condition} {last c : Condition}
    {index : Nat} (h : p.conditionFor conditions last index = .ok c) :
    conditions[index]?.getD last = c := by
  rw [conditionFor] at h
  cases hi : conditions[index]? with
  | some own =>
    rw [hi] at h
    exact Except.ok.inj h
  | none =>
    rw [hi] at h
    cases hp : p.surplusPayload with
    | reuseLast =>
      rw [hp] at h
      exact Except.ok.inj h
    | reject =>
      rw [hp] at h
      cases h

/-- Payloads from an index on compile to row updates, in order. -/
theorem Policy.compilePairs_forall₂ {p : Policy} {conditions : List Condition} {last : Condition}
    {updates : List Record} {index : Nat} {fs : List UpdateClauses}
    (h : p.compilePairs conditions last index updates = .ok fs) :
    List.Forall₂ (fun e f => e.1.compileUpdate e.2 = .ok f)
      ((updates.zipIdx index).map fun e => (e.1, conditions[e.2]?.getD last)) fs := by
  induction updates generalizing index fs with
  | nil =>
    cases h
    exact .nil
  | cons fields rest ih =>
    obtain ⟨c, hc, h⟩ := except_bind_eq_ok.1 h
    obtain ⟨f, hf, h⟩ := except_bind_eq_ok.1 h
    obtain ⟨others, ho, h⟩ := except_bind_eq_ok.1 h
    obtain rfl := Except.ok.inj h
    rw [List.zipIdx_cons, List.map_cons]
    have hcond : conditions[index]?.getD last = c := conditionFor_eq_ok hc
    refine .cons ?_ (ih ho)
    rw [hcond]
    exact hf

/-- **An update compiles to one row update for each payload**, with its condition. -/
theorem UpdateRequest.compile_forall₂ {p : Policy} {r : UpdateRequest} {fs : List UpdateClauses}
    (h : r.compile p = .ok fs) :
    List.Forall₂ (fun e f => e.1.compileUpdate e.2 = .ok f) r.pairs fs := by
  rw [compile] at h
  rw [pairs]
  split at h
  · rename_i he
    obtain rfl := Except.ok.inj h
    rw [List.isEmpty_iff.1 he]
    split <;> exact .nil
  · cases hl : r.conditions.getLast? with
    | some last =>
      rw [hl] at h
      exact Policy.compilePairs_forall₂ h
    | none =>
      rw [hl] at h
      cases h

end RowQuery
