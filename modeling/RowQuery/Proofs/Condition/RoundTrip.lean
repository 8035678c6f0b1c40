/-
  RowQuery — conditions written as JSON trees and read back.

  The tree of a condition is read back if the condition has no empty group, which the
  reader refuses, and its doubles are finite. All other spellings of a condition are read
  as one that can be written.

  * `Condition.Writable`: what a condition has to be for that;
  * `Condition.ofJson_toJson`: such a condition is read back;
  * `Condition.writable_of_ofJson`: all that is read is such a condition.
-/
import RowQuery.Condition.Json
import RowQuery.Proofs.Condition.Compile
import RowQuery.Proofs.Json.Scalar

namespace RowQuery

/-! ## Names -/

theorem Operator.ofName_name (op : Operator) : Operator.ofName op.name = .ok op := by
  cases op <;> rfl

theorem Joiner.ofName_name (joiner : Joiner) : Joiner.ofName joiner.name = .ok joiner := by
  cases joiner <;> rfl

namespace Condition

/-- **A condition can be written** if it has no empty group and its doubles are finite. -/
structure Writable (c : Condition) : Prop where
  noEmptyGroup : c.NoEmptyGroup
  finite : ∀ l ∈ c.leaves, l.value.Finite

/-- So can conditions. -/
structure AllWritable (cs : List Condition) : Prop where
  noneEmpty : NoneEmpty cs
  finite : ∀ l ∈ memberLeaves cs, l.value.Finite

theorem allWritable_cons {c : Condition} {cs : List Condition} :
    AllWritable (c :: cs) ↔ c.Writable ∧ AllWritable cs := by
  constructor
  · rintro ⟨hempty, hfinite⟩
    simp only [memberLeaves, List.mem_append] at hfinite
    exact ⟨⟨hempty.1, fun l hl => hfinite l (Or.inl hl)⟩,
      ⟨hempty.2, fun l hl => hfinite l (Or.inr hl)⟩⟩
  · rintro ⟨hc, hcs⟩
    refine ⟨⟨hc.noEmptyGroup, hcs.noneEmpty⟩, ?_⟩
    intro l hl
    rw [memberLeaves, List.mem_append] at hl
    rcases hl with hl | hl
    · exact hc.finite l hl
    · exact hcs.finite l hl

theorem writable_group {joiner : Joiner} {cs : List Condition} :
    (group joiner cs).Writable ↔ cs ≠ [] ∧ AllWritable cs :=
  ⟨fun h => ⟨h.noEmptyGroup.1, h.noEmptyGroup.2, h.finite⟩,
    fun h => ⟨⟨h.1, h.2.noneEmpty⟩, h.2.finite⟩⟩

/-! ## Reading back -/

theorem comparisonOfJson_toJson {c : Comparison} (h : c.value.Finite) :
    comparisonOfJson [("field", .str c.field), ("operator", .str c.operator.name),
      ("value", c.value.toJson)] = .ok c := by
  have hfield : eitherMember? "field" "left" [("field", .str c.field),
      ("operator", .str c.operator.name), ("value", c.value.toJson)] = some (.str c.field) := rfl
  have hvalue : eitherMember? "value" "right" [("field", .str c.field),
      ("operator", .str c.operator.name), ("value", c.value.toJson)] = some c.value.toJson := rfl
  have hname : operatorName? [("field", .str c.field), ("operator", .str c.operator.name),
      ("value", c.value.toJson)] = some c.operator.name := rfl
  simp only [comparisonOfJson, hfield, hvalue, hname, Operator.ofName_name,
    Scalar.ofJson?_toJson h]
  rfl

mutual

/-- **A condition that can be written is read back from its tree.** -/
theorem ofJson_toJson : ∀ {c : Condition}, c.Writable → ofJson c.toJson = .ok c
  | .leaf c, h => by
    have hvalue : c.value.Finite := h.finite c (by simp [leaves])
    rw [toJson, ofJson, groupOfMembers?_eq]
    change (comparisonOfJson _ >>= fun c => Except.ok (leaf c)) = _
    rw [comparisonOfJson_toJson hvalue]
    rfl
  | .group joiner [], h => absurd rfl (writable_group.1 h).1
  | .group joiner (c :: cs), h => by
    obtain ⟨hc, hcs⟩ := allWritable_cons.1 (writable_group.1 h).2
    rw [toJson, membersToJson, ofJson, groupOfMembers?_eq]
    change (Joiner.ofName joiner.name >>= fun joiner =>
      ofConditions (.arr (c.toJson :: membersToJson cs)) >>= fun cs => .ok (group joiner cs)) = _
    rw [Joiner.ofName_name, ofConditions, ofJson_toJson hc, ofJsonItems_membersToJson hcs]
    rfl

theorem ofJsonItems_membersToJson : ∀ {cs : List Condition}, AllWritable cs →
    ofJsonItems (membersToJson cs) = .ok cs
  | [], _ => rfl
  | c :: cs, h => by
    obtain ⟨hc, hcs⟩ := allWritable_cons.1 h
    rw [membersToJson, ofJsonItems, ofJson_toJson hc, ofJsonItems_membersToJson hcs]
    rfl

end

/-! ## What is read -/

theorem finite_of_comparisonOfJson {members : List (String × Json)} {c : Comparison}
    (h : comparisonOfJson members = .ok c) : c.value.Finite := by
  rw [comparisonOfJson] at h
  split at h
  · split at h
    · cases h
    · obtain ⟨operator, -, h⟩ := except_bind_eq_ok.1 h
      split at h
      · cases h
      · rename_i hvalue
        cases h
        exact Scalar.finite_of_ofJson? hvalue
  · cases h

mutual

/-- **A condition that is read can be written**, however it was spelled. -/
theorem writable_of_ofJson : ∀ {j : Json} {c : Condition}, ofJson j = .ok c → c.Writable
  | .obj members, c, h => by
    rw [ofJson] at h
    cases hm : groupOfMembers? members with
    | some conditions =>
      rw [hm] at h
      obtain ⟨joiner, -, h⟩ := except_bind_eq_ok.1 h
      obtain ⟨cs, hcs, h⟩ := except_bind_eq_ok.1 h
      cases h
      exact writable_group.2 (writable_of_groupOfMembers? hm hcs)
    | none =>
      rw [hm] at h
      obtain ⟨l, hl, h⟩ := except_bind_eq_ok.1 h
      cases h
      refine ⟨True.intro, ?_⟩
      intro l' hl'
      obtain rfl := List.mem_singleton.1 hl'
      exact finite_of_comparisonOfJson hl
  | .null, c, h | .bool _, c, h | .num _, c, h | .str _, c, h | .arr _, c, h => by
    rw [ofJson] at h
    · cases h
    · intro members hj
      cases hj

theorem writable_of_groupOfMembers? : ∀ {members : List (String × Json)}
    {conditions : Except ConditionError (List Condition)} {cs : List Condition},
    groupOfMembers? members = some conditions → conditions = .ok cs → cs ≠ [] ∧ AllWritable cs
  | [], _, _, h, _ => by
    rw [groupOfMembers?] at h
    cases h
  | (key, j) :: members, conditions, cs, h, hcs => by
    rw [groupOfMembers?] at h
    by_cases hkey : key = "conditions"
    · rw [if_pos hkey] at h
      obtain rfl := Option.some.inj h
      exact writable_of_ofConditions hcs
    · rw [if_neg hkey] at h
      exact writable_of_groupOfMembers? h hcs

theorem writable_of_ofConditions : ∀ {j : Json} {cs : List Condition},
    ofConditions j = .ok cs → cs ≠ [] ∧ AllWritable cs
  | .arr [], cs, h => by
    rw [ofConditions] at h
    cases h
  | .arr (j :: js), cs, h => by
    rw [ofConditions] at h
    obtain ⟨c, hc, h⟩ := except_bind_eq_ok.1 h
    obtain ⟨rest, hrest, h⟩ := except_bind_eq_ok.1 h
    cases h
    exact ⟨List.cons_ne_nil _ _,
      allWritable_cons.2 ⟨writable_of_ofJson hc, writable_of_ofJsonItems hrest⟩⟩
  | .null, cs, h | .bool _, cs, h | .num _, cs, h | .str _, cs, h | .obj _, cs, h => by
    rw [ofConditions] at h
    · cases h
    · intro hj
      cases hj
    · intro j js hj
      cases hj

theorem writable_of_ofJsonItems : ∀ {js : List Json} {cs : List Condition},
    ofJsonItems js = .ok cs → AllWritable cs
  | [], cs, h => by
    rw [ofJsonItems] at h
    cases h
    refine ⟨True.intro, ?_⟩
    intro l hl
    cases hl
  | j :: js, cs, h => by
    rw [ofJsonItems] at h
    obtain ⟨c, hc, h⟩ := except_bind_eq_ok.1 h
    obtain ⟨rest, hrest, h⟩ := except_bind_eq_ok.1 h
    cases h
    exact allWritable_cons.2 ⟨writable_of_ofJson hc, writable_of_ofJsonItems hrest⟩

end

end Condition

end RowQuery
