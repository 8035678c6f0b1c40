/-
  RowQuery — values written as JSON trees and read back.

  A value is read back from its tree if no double in it is infinite or not a number, as
  those are written as null. What is read from a tree has no such double.

  * `Scalar.Finite`: all doubles in a value are finite;
  * `Scalar.ofJson?_toJson`: such a value is read back;
  * `Scalar.finite_of_ofJson?`: all that is read is such a value.
-/
import RowQuery.Proofs.Json.Number
import RowQuery.Scalar

namespace RowQuery

namespace Scalar

mutual

/-- All doubles in a value are finite. -/
def Finite : Scalar → Prop
  | float x => x.isFinite = true
  | list items => AllFinite items
  | _ => True

/-- All doubles in values are finite. -/
def AllFinite : List Scalar → Prop
  | [] => True
  | s :: ss => s.Finite ∧ AllFinite ss

end

mutual

/-- **A value whose doubles are finite is read back from its tree.** -/
theorem ofJson?_toJson : ∀ {s : Scalar}, s.Finite → ofJson? s.toJson = some s
  | null, _ | bool _, _ | text _, _ => rfl
  | int n, _ => by
    rw [toJson, ofJson?, Number.toInt64?_ofInt64]
  | float x, h => by
    have hx : x.isFinite = true := h
    have hwritten : Number.ofFloat? x = some (.float x hx) := dif_pos hx
    simp only [toJson, hwritten]
    rw [ofJson?]
    rfl
  | list items, h => by
    rw [toJson, ofJson?, ofJsonItems?_itemsToJson h]
    rfl

theorem ofJsonItems?_itemsToJson : ∀ {ss : List Scalar}, AllFinite ss →
    ofJsonItems? (itemsToJson ss) = some ss
  | [], _ => rfl
  | s :: ss, h => by
    rw [itemsToJson, ofJsonItems?, ofJson?_toJson h.1, ofJsonItems?_itemsToJson h.2]
    rfl

end

mutual

/-- **The doubles of a value that is read from a tree are finite.** -/
theorem finite_of_ofJson? : ∀ {j : Json} {s : Scalar}, ofJson? j = some s → s.Finite
  | .null, s, h | .bool _, s, h | .str _, s, h => by
    rw [ofJson?] at h
    cases h
    exact True.intro
  | .num n, s, h => by
    rw [ofJson?] at h
    cases hn : n.toInt64? with
    | some i =>
      rw [hn] at h
      cases h
      exact True.intro
    | none =>
      rw [hn] at h
      cases h
      exact Number.isFinite_toFloat hn
  | .arr items, s, h => by
    rw [ofJson?] at h
    obtain ⟨ss, hss, rfl⟩ := Option.map_eq_some_iff.1 h
    exact allFinite_of_ofJsonItems? hss
  | .obj _, s, h => by
    rw [ofJson?] at h
    cases h

theorem allFinite_of_ofJsonItems? : ∀ {js : List Json} {ss : List Scalar},
    ofJsonItems? js = some ss → AllFinite ss
  | [], ss, h => by
    rw [ofJsonItems?] at h
    cases h
    exact True.intro
  | j :: js, ss, h => by
    rw [ofJsonItems?] at h
    obtain ⟨s, hs, h⟩ := Option.bind_eq_some_iff.1 h
    obtain ⟨rest, hrest, h⟩ := Option.bind_eq_some_iff.1 h
    cases h
    exact ⟨finite_of_ofJson? hs, allFinite_of_ofJsonItems? hrest⟩

end

end Scalar

end RowQuery
