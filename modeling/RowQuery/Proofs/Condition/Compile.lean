/-
  RowQuery — what conditions compile to.

  The compilation of a condition is taken apart into those of its members, so that no
  other proof has to look into it.

  * `compile_leaf_eq_ok`, `compile_group_eq_ok`, `compileMembers_cons_eq_ok`: when the
    compilation of a condition succeeds, and with what;
  * `values_of_compile`: the values are those of the comparisons, in pre-order;
  * `leaves_ne_nil_of_compile`: there is at least one comparison;
  * `exists_compile`: without empty groups and empty field names it succeeds.
-/
import RowQuery.Condition.Basic
import RowQuery.Proofs.Except

namespace RowQuery

namespace Condition

/-! ## Inversion -/

theorem compile_leaf_eq_ok {c : Comparison} {clause : Clause} :
    (leaf c).compile = .ok clause ↔
      c.field ≠ "" ∧ clause = ⟨c.field ++ " " ++ c.operator.sql ++ " ?", [c.value]⟩ := by
  rw [compile, Comparison.compile]
  by_cases h : c.field.isEmpty = true
  · rw [if_pos h]
    exact ⟨fun h' => (by cases h'), fun h' => absurd (String.isEmpty_iff.1 h) h'.1⟩
  · rw [if_neg h]
    have hne : c.field ≠ "" := fun h' => h (String.isEmpty_iff.2 h')
    exact ⟨fun h' => ⟨hne, (Except.ok.inj h').symm⟩, fun h' => by rw [h'.2]⟩

theorem compileMembers_cons_eq_ok {c : Condition} {cs : List Condition} {clauses : List Clause} :
    compileMembers (c :: cs) = .ok clauses ↔
      ∃ a as, c.compile = .ok a ∧ compileMembers cs = .ok as ∧ clauses = a :: as := by
  rw [compileMembers, except_bind_eq_ok]
  constructor
  · rintro ⟨a, ha, h⟩
    obtain ⟨as, has, h⟩ := except_bind_eq_ok.1 h
    exact ⟨a, as, ha, has, (Except.ok.inj h).symm⟩
  · rintro ⟨a, as, ha, has, rfl⟩
    exact ⟨a, ha, except_bind_eq_ok.2 ⟨as, has, rfl⟩⟩

/-- A group with members compiles to the predicates of its members, joined. -/
theorem compile_group_cons (joiner : Joiner) (c : Condition) (cs : List Condition) :
    (group joiner (c :: cs)).compile =
      (compileMembers (c :: cs)).map (Clause.joined joiner.separator) := by
  rw [compile, compileMembers]
  cases c.compile with
  | error e => rfl
  | ok a => cases compileMembers cs <;> rfl

theorem compile_group_eq_ok {joiner : Joiner} {members : List Condition} {clause : Clause} :
    (group joiner members).compile = .ok clause ↔
      members ≠ [] ∧ ∃ clauses, compileMembers members = .ok clauses ∧
        clause = .joined joiner.separator clauses := by
  cases members with
  | nil => exact ⟨fun h => (by cases h), fun h => absurd rfl h.1⟩
  | cons c cs =>
    rw [compile_group_cons, except_map_eq_ok]
    constructor
    · rintro ⟨clauses, h, rfl⟩
      exact ⟨List.cons_ne_nil c cs, clauses, h, rfl⟩
    · rintro ⟨-, clauses, h, rfl⟩
      exact ⟨clauses, h, rfl⟩

/-! ## Values -/

mutual

/-- **The values of a compiled condition** are those of its comparisons, in pre-order. -/
theorem values_of_compile : ∀ {c : Condition} {clause : Clause}, c.compile = .ok clause →
    clause.values = c.leaves.map Comparison.value
  | .leaf c, clause, h => by
    obtain ⟨-, rfl⟩ := compile_leaf_eq_ok.1 h
    rfl
  | .group joiner members, clause, h => by
    obtain ⟨-, clauses, hm, rfl⟩ := compile_group_eq_ok.1 h
    rw [leaves]
    exact values_of_compileMembers hm

theorem values_of_compileMembers : ∀ {cs : List Condition} {clauses : List Clause},
    compileMembers cs = .ok clauses →
      clauses.flatMap Clause.values = (memberLeaves cs).map Comparison.value
  | [], clauses, h => by
    cases h
    rfl
  | c :: cs, clauses, h => by
    obtain ⟨a, as, ha, has, rfl⟩ := compileMembers_cons_eq_ok.1 h
    rw [List.flatMap_cons, memberLeaves, List.map_append, values_of_compile ha,
      values_of_compileMembers has]

end

mutual

/-- A condition that compiles has a comparison. -/
theorem leaves_ne_nil_of_compile : ∀ {c : Condition} {clause : Clause}, c.compile = .ok clause →
    c.leaves ≠ []
  | .leaf c, _, _ => by
    rw [leaves]
    exact List.cons_ne_nil c []
  | .group joiner members, clause, h => by
    obtain ⟨hne, clauses, hm, -⟩ := compile_group_eq_ok.1 h
    rw [leaves]
    exact memberLeaves_ne_nil_of_compile hne hm

theorem memberLeaves_ne_nil_of_compile : ∀ {cs : List Condition} {clauses : List Clause},
    cs ≠ [] → compileMembers cs = .ok clauses → memberLeaves cs ≠ []
  | [], _, hne, _ => absurd rfl hne
  | c :: cs, clauses, _, h => by
    obtain ⟨a, as, ha, -, -⟩ := compileMembers_cons_eq_ok.1 h
    rw [memberLeaves]
    intro hnil
    exact leaves_ne_nil_of_compile ha (List.append_eq_nil_iff.1 hnil).1

end

/-! ## Success -/

mutual

/-- Whether no group in a condition is empty. -/
def NoEmptyGroup : Condition → Prop
  | leaf _ => True
  | group _ members => members ≠ [] ∧ NoneEmpty members

/-- Whether no group in conditions is empty. -/
def NoneEmpty : List Condition → Prop
  | [] => True
  | c :: cs => c.NoEmptyGroup ∧ NoneEmpty cs

end

mutual

/-- Conditions without empty groups and empty field names compile. -/
theorem exists_compile : ∀ {c : Condition}, c.NoEmptyGroup → (∀ l ∈ c.leaves, l.field ≠ "") →
    ∃ clause, c.compile = .ok clause
  | .leaf c, _, hf => ⟨_, compile_leaf_eq_ok.2 ⟨hf c (by simp [leaves]), rfl⟩⟩
  | .group joiner members, h, hf => by
    obtain ⟨hne, h⟩ := h
    obtain ⟨clauses, hc⟩ := exists_compileMembers h hf
    exact ⟨_, compile_group_eq_ok.2 ⟨hne, clauses, hc, rfl⟩⟩

theorem exists_compileMembers : ∀ {cs : List Condition}, NoneEmpty cs →
    (∀ l ∈ memberLeaves cs, l.field ≠ "") → ∃ clauses, compileMembers cs = .ok clauses
  | [], _, _ => ⟨[], rfl⟩
  | c :: cs, h, hf => by
    obtain ⟨hc, hcs⟩ := h
    simp only [memberLeaves, List.mem_append] at hf
    obtain ⟨a, ha⟩ := exists_compile hc fun l hl => hf l (Or.inl hl)
    obtain ⟨as, has⟩ := exists_compileMembers hcs fun l hl => hf l (Or.inr hl)
    exact ⟨a :: as, compileMembers_cons_eq_ok.2 ⟨a, as, ha, has, rfl⟩⟩

end

end Condition

end RowQuery
