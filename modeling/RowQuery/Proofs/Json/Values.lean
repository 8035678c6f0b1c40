/-
  RowQuery — the trees of values and of records.

  A value has no object in it, so that its tree has no key twice; it is nested as deep as the
  lists in it are. The numbers of a value are read back from their texts if its doubles have
  few digits, and so they are if it has none.

  * `Scalar.FewDigits`: the doubles in a value have few digits, at any depth;
  * `Scalar.FloatFree`: no double occurs in it;
  * `Scalar.distinctKeys_toJson`, `Record.distinctKeys_toJson`: no key comes twice in the tree
    of a value or of a record.
-/
import RowQuery.Proofs.Json.Scalar
import RowQuery.Proofs.Json.Text

namespace RowQuery

namespace Scalar

mutual

theorem distinctKeys_toJson : ∀ s : Scalar, s.toJson.DistinctKeys
  | null | bool _ | int _ | text _ => True.intro
  | float x => by
    rw [toJson]
    cases Number.ofFloat? x <;> exact True.intro
  | list items => itemsDistinctKeys_itemsToJson items

theorem itemsDistinctKeys_itemsToJson : ∀ ss : List Scalar,
    Json.ItemsDistinctKeys (itemsToJson ss)
  | [] => True.intro
  | s :: ss => ⟨distinctKeys_toJson s, itemsDistinctKeys_itemsToJson ss⟩

end

/-! ## Doubles of few digits -/

mutual

/-- All doubles in a value are finite and written with few digits. -/
def FewDigits : Scalar → Prop
  | float x => ∃ finite, (Number.spelling (.float x finite)).Few
  | list items => AllFewDigits items
  | _ => True

/-- All doubles in values are finite and written with few digits. -/
def AllFewDigits : List Scalar → Prop
  | [] => True
  | s :: ss => s.FewDigits ∧ AllFewDigits ss

end

mutual

theorem FewDigits.finite : ∀ {s : Scalar}, s.FewDigits → s.Finite
  | null, _ | bool _, _ | int _, _ | text _, _ => True.intro
  | float _, h => h.1
  | list _, h => AllFewDigits.allFinite h

theorem AllFewDigits.allFinite : ∀ {ss : List Scalar}, AllFewDigits ss → AllFinite ss
  | [], _ => True.intro
  | _ :: _, h => ⟨h.1.finite, AllFewDigits.allFinite h.2⟩

end

mutual

/-- Where doubles have few digits, all numbers are the values of their texts. -/
theorem FewDigits.readsBack : ∀ {s : Scalar}, s.FewDigits → s.toJson.ReadsBack
  | null, _ | bool _, _ | text _, _ => True.intro
  | int _, _ => Number.readsBack_int _ _
  | float x, h => by
    obtain ⟨finite, few⟩ := h
    have hnumber : Number.ofFloat? x = some (.float x finite) := dif_pos finite
    simp only [toJson, hnumber]
    exact Number.readsBack_of_few finite few
  | list _, h => AllFewDigits.readBack h

theorem AllFewDigits.readBack : ∀ {ss : List Scalar}, AllFewDigits ss →
    Json.ItemsReadBack (itemsToJson ss)
  | [], _ => True.intro
  | _ :: _, h => ⟨h.1.readsBack, AllFewDigits.readBack h.2⟩

end

/-! ## Values without doubles -/

mutual

/-- No double occurs in a value. -/
def FloatFree : Scalar → Prop
  | float _ => False
  | list items => AllFloatFree items
  | _ => True

/-- No double occurs in values. -/
def AllFloatFree : List Scalar → Prop
  | [] => True
  | s :: ss => s.FloatFree ∧ AllFloatFree ss

end

mutual

/-- Where there is no double, all have few digits. -/
theorem FloatFree.fewDigits : ∀ {s : Scalar}, s.FloatFree → s.FewDigits
  | null, _ | bool _, _ | int _, _ | text _, _ => True.intro
  | float _, h => h.elim
  | list _, h => AllFloatFree.allFewDigits h

theorem AllFloatFree.allFewDigits : ∀ {ss : List Scalar}, AllFloatFree ss → AllFewDigits ss
  | [], _ => True.intro
  | _ :: _, h => ⟨h.1.fewDigits, AllFloatFree.allFewDigits h.2⟩

end

end Scalar

/-! ## Members -/

/-- The members of values have no key twice in any of them. -/
theorem membersDistinctKeys_toJson (es : List (String × Scalar)) :
    Json.MembersDistinctKeys (es.map fun e => (e.1, e.2.toJson)) := by
  induction es with
  | nil => exact True.intro
  | cons e es ih => exact ⟨e.2.distinctKeys_toJson, ih⟩

/-- So it is with members of such values. -/
theorem membersReadBack_toJson {es : List (String × Scalar)} (h : ∀ e ∈ es, e.2.FloatFree) :
    Json.MembersReadBack (es.map fun e => (e.1, e.2.toJson)) := by
  induction es with
  | nil => exact True.intro
  | cons e es ih =>
    rw [List.forall_mem_cons] at h
    exact ⟨h.1.fewDigits.readsBack, ih h.2⟩

theorem Record.distinctKeys_toJson (r : Record) : r.toJson.DistinctKeys := by
  refine ⟨?_, membersDistinctKeys_toJson r.entries⟩
  rw [List.map_map]
  exact r.nodup

end RowQuery
