/-
  RowQuery — lists that are related item by item.

  * `exists_getElem?_of_forall₂`, `exists_of_forall₂`: the partner of an item;
  * `map_eq_map_of_forall₂`: what agrees for partners agrees for the lists.
-/
import Mathlib.Data.List.Forall2

namespace RowQuery

variable {α β γ : Type} {R : α → β → Prop} {as : List α} {bs : List β}

theorem exists_getElem?_of_forall₂ (h : List.Forall₂ R as bs) {i : Nat} {b : β}
    (hb : bs[i]? = some b) : ∃ a, as[i]? = some a ∧ R a b := by
  induction h generalizing i with
  | nil => cases hb
  | @cons a _ _ _ hr _ ih =>
    cases i with
    | zero =>
      cases hb
      exact ⟨a, rfl, hr⟩
    | succ i => exact ih hb

theorem exists_of_forall₂ (h : List.Forall₂ R as bs) {b : β} (hb : b ∈ bs) : ∃ a ∈ as, R a b := by
  obtain ⟨i, hi⟩ := List.getElem?_of_mem hb
  obtain ⟨a, ha, hr⟩ := exists_getElem?_of_forall₂ h hi
  exact ⟨a, List.mem_of_getElem? ha, hr⟩

theorem map_eq_map_of_forall₂ {g : α → γ} {g' : β → γ} (h : List.Forall₂ R as bs)
    (hg : ∀ a b, R a b → g a = g' b) : as.map g = bs.map g' := by
  rw [← List.forall₂_eq_eq_eq, List.forall₂_map_left_iff, List.forall₂_map_right_iff]
  exact h.imp hg

end RowQuery
