/-
  RowQuery — the expansion of a statement, stretch by stretch.

  The marks of a text cut it into stretches.  Its expansion has the same stretches, with
  the same flags, and between them what is written for the values, in order: the marks of
  a list in parentheses, or the mark itself.  This is said without the functions that
  expand, by the pieces alone.

  * `weave` puts text between stretches, `written` is the text for the `k`-th value;
  * `expand_weaves`: the text, the mask and the values of an expansion, when its marks and
    values are as many, and when it is its own expansion.
-/
import RowQuery.Proofs.Sql.Expansion

namespace RowQuery

/-- What is bound for a value: the items of a list, or the value. -/
def Scalar.flattened (v : Scalar) : List Scalar := v.items?.getD [v]

namespace Sql

/-- Stretches of flagged text, with the `k`-th text in code between the `k`-th and the
    next. -/
def weave (between : Nat → String) : List (List (Char × Bool)) → List (Char × Bool)
  | [] => []
  | [stretch] => stretch
  | stretch :: next :: rest =>
    stretch ++ (between 0).toList.map (·, true) ++ weave (fun k => between (k + 1)) (next :: rest)

/-- The text for the `k`-th mark. -/
def written (values : List Scalar) (k : Nat) : String :=
  match values[k]? with
  | some (.list items) => "(" ++ ", ".intercalate (List.replicate items.length "?") ++ ")"
  | _ => "?"

/-! ## The stretches of a text -/

theorem written_zero (v : Scalar) (values : List Scalar) :
    (written (v :: values) 0).toList = (expandMark v).1 := by
  cases v with
  | list items =>
    simp only [written, List.getElem?_cons_zero, String.toList_append, String.toList_intercalate,
      List.map_replicate]
    rfl
  | _ => simp [written, expandMark]

theorem weave_cons (between : Nat → String) (c : Char × Bool) (stretch : List (Char × Bool))
    (rest : List (List (Char × Bool))) :
    weave between ((c :: stretch) :: rest) = c :: weave between (stretch :: rest) := by
  cases rest <;> rfl

/-- **The marks of a text cut it into stretches**, and the text for the values is spread
    between them. -/
theorem exists_stretches (cs : List (Char × Bool)) :
    ∃ stretches : List (List (Char × Bool)),
      stretches.length = (cs.map isMark).count true + 1 ∧
      (∀ stretch ∈ stretches, ∀ c ∈ stretch, isMark c = false) ∧
      ∀ values, weave (written values) stretches = spread cs values := by
  induction cs with
  | nil => exact ⟨[[]], rfl, by simp, fun values => by cases values <;> rfl⟩
  | cons c cs ih =>
    obtain ⟨stretches, hlen, hmarks, hweave⟩ := ih
    obtain ⟨stretch, rest, rfl⟩ : ∃ stretch rest, stretches = stretch :: rest :=
      List.exists_cons_of_length_eq_add_one hlen
    by_cases hc : isMark c = true
    · -- a mark ends a stretch without characters
      refine ⟨[] :: stretch :: rest, ?_, ?_, fun values => ?_⟩
      · rw [List.length_cons, hlen, List.map_cons, hc, List.count_cons_self]
      · simpa using hmarks
      · rw [weave, List.nil_append]
        cases values with
        | nil =>
          have hmark : c = ('?', true) := by
            simp only [isMark, Bool.and_eq_true, decide_eq_true_eq] at hc
            exact Prod.ext hc.2 hc.1
          have hnext := hweave []
          rw [spread_nil] at hnext ⊢
          rw [hmark]
          exact congrArg (('?', true) :: ·) hnext
        | cons v values =>
          rw [written_zero, spread, if_pos hc, ← hweave values]
          rfl
    · -- any other character is the first of a stretch
      refine ⟨(c :: stretch) :: rest, ?_, ?_, fun values => ?_⟩
      · rw [List.map_cons, Bool.eq_false_iff.2 hc, List.count_cons_of_ne (by simp), ← hlen]
        rfl
      · rw [List.forall_mem_cons] at hmarks ⊢
        exact ⟨List.forall_mem_cons.2 ⟨Bool.eq_false_iff.2 hc, hmarks.1⟩, hmarks.2⟩
      · rw [weave_cons, hweave values]
        cases values with
        | nil => rw [spread_nil, spread_nil]
        | cons v values => rw [spread, if_neg hc]

/-! ## The values -/

theorem expandMark_snd (v : Scalar) : (expandMark v).2 = v.flattened := by
  cases v <;> rfl

theorem expandFlagged_snd (cs : List (Char × Bool)) (values : List Scalar) :
    (expandFlagged cs values).2 =
      (values.take ((cs.map isMark).count true)).flatMap Scalar.flattened ++
        values.drop ((cs.map isMark).count true) := by
  induction cs generalizing values with
  | nil => rfl
  | cons c cs ih =>
    cases values with
    | nil => rw [expandFlagged_nil]; simp
    | cons v values =>
      rw [expandFlagged_cons, List.map_cons]
      by_cases hc : isMark c = true
      · rw [if_pos hc, hc, List.count_cons_self, List.take_succ_cons, List.drop_succ_cons,
          List.flatMap_cons, List.append_assoc, ← ih, expandMark_snd]
      · rw [if_neg hc, Bool.eq_false_iff.2 hc, List.count_cons_of_ne (by simp)]
        exact ih (v :: values)

/-- What is bound for values without lists of lists has no lists, as far as marks meet it. -/
theorem single_of_mem_expanded {sql : String} {values : List Scalar}
    (hflat : ∀ items, Scalar.list items ∈ values.take (markCount sql.toList) →
      ∀ v ∈ items, v.items? = none) :
    ∀ v ∈ (expand sql values).2.take (markCount (expand sql values).1.toList),
      v.items? = none := by
  have hmarks := markCount_expand sql values
  have hbound : (expand sql values).2 =
      (values.take (markCount sql.toList)).flatMap Scalar.flattened ++
        values.drop (markCount sql.toList) := expandFlagged_snd _ values
  rw [hbound] at hmarks ⊢
  intro v hv
  have hconsumed : v ∈ (values.take (markCount sql.toList)).flatMap Scalar.flattened := by
    rw [List.length_append, List.length_drop] at hmarks
    by_cases hle : values.length ≤ markCount sql.toList
    · rw [List.drop_eq_nil_of_le hle, List.append_nil] at hv
      exact List.mem_of_mem_take hv
    · rwa [List.take_left' (by omega)] at hv
  obtain ⟨value, hvalue, hv⟩ := List.mem_flatMap.1 hconsumed
  cases value with
  | list items => exact hflat items hvalue v hv
  | _ =>
    obtain rfl := List.mem_singleton.1 hv
    rfl

/-! ## Expansion -/

/-- **What expansion does**, for every text and all values.  The stretches between the
    marks stay, with their flags, and the `k`-th mark becomes what is written for the
    `k`-th value, all of it in code; the values that met a mark are bound with their lists
    flattened once, the others as they are.  Marks and bound values are as many if and
    only if marks and values were, and unless a list that met a mark has lists among its
    items the result stands for itself. -/
theorem expand_weaves (sql : String) (values : List Scalar) :
    (∃ stretches : List (List (Char × Bool)),
      stretches.length = markCount sql.toList + 1 ∧
      (∀ stretch ∈ stretches, ∀ c ∈ stretch, isMark c = false) ∧
      flagged sql.toList = weave (fun _ => "?") stretches ∧
      flagged (expand sql values).1.toList = weave (written values) stretches) ∧
    (expand sql values).2 =
      (values.take (markCount sql.toList)).flatMap Scalar.flattened ++
        values.drop (markCount sql.toList) ∧
    (markCount (expand sql values).1.toList = (expand sql values).2.length ↔
      markCount sql.toList = values.length) ∧
    ((∀ items, Scalar.list items ∈ values.take (markCount sql.toList) →
        ∀ v ∈ items, v.items? = none) →
      expand (expand sql values).1 (expand sql values).2 = expand sql values) := by
  refine ⟨?_, expandFlagged_snd _ values, ?_, fun hflat =>
    expand_of_single_take (single_of_mem_expanded hflat)⟩
  · obtain ⟨stretches, hlen, hmarks, hweave⟩ := exists_stretches (flagged sql.toList)
    refine ⟨stretches, hlen, hmarks, ?_, ?_⟩
    · exact (spread_nil _).symm.trans (hweave []).symm
    · rw [flagged_expand, hweave]
  · have := markCount_expand sql values
    omega

/-- A mark in quotes, an empty list, a list and a list too many. -/
theorem expand_weaves_surplus_list :
    let sql := "a IN ? AND b = '?' OR c IN ?"
    let values := [Scalar.list [], .list [.int 1, .null], .list [.list []]]
    (∀ items, Scalar.list items ∈ values.take (markCount sql.toList) →
      ∀ v ∈ items, v.items? = none) ∧
    expand sql values =
      ("a IN () AND b = '?' OR c IN (?, ?)", [.int 1, .null, .list [.list []]]) ∧
    expand "a IN () AND b = '?' OR c IN (?, ?)" [.int 1, .null, .list [.list []]] =
      ("a IN () AND b = '?' OR c IN (?, ?)", [.int 1, .null, .list [.list []]]) := by
  intro sql values
  have hcount : markCount sql.toList = 2 := by decide +kernel
  have hflat : ∀ items, Scalar.list items ∈ values.take (markCount sql.toList) →
      ∀ v ∈ items, v.items? = none := by
    intro items hitems v hv
    rw [hcount] at hitems
    simp only [values, List.take_succ_cons, List.take_zero, List.mem_cons, List.not_mem_nil,
      or_false, Scalar.list.injEq] at hitems
    rcases hitems with rfl | rfl
    · exact absurd hv List.not_mem_nil
    · simp only [List.mem_cons, List.not_mem_nil, or_false] at hv
      rcases hv with rfl | rfl <;> rfl
  have hexpand : expand sql values =
      ("a IN () AND b = '?' OR c IN (?, ?)", [.int 1, .null, .list [.list []]]) := by
    decide +kernel
  have hagain := (expand_weaves sql values).2.2.2 hflat
  rw [hexpand] at hagain
  exact ⟨hflat, hexpand, hagain⟩

end Sql

end RowQuery
