/-
  RowQuery — the mask and the marks of an expanded statement.

  What is written for a list in place of its mark is code, and so is what follows it:
  the scanner is in code before a mark and after what replaces it, and nothing that is
  written there opens a quote or a comment with its neighbours.

  * `spread` is the expansion of a flagged text with the flags of the result;
  * `codeMask_spread`: these are the flags of its mask;
  * `markCount_expand`: marks and values stay in step;
  * `expand_fst_of_width`: the text depends on the values only by which of them are lists,
    and on how long these are;
  * `expand_of_single`: without lists among the values a statement stays as it is.
-/
import RowQuery.Proofs.Sql.CodeMarks
import RowQuery.Sql.Marks

namespace RowQuery

namespace Sql

/-- The expansion of a flagged text, what is written for a mark being code. -/
def spread : List (Char × Bool) → List Scalar → List (Char × Bool)
  | [], _ => []
  | cs, [] => cs
  | c :: cs, value :: values =>
    if isMark c then (expandMark value).1.map (·, true) ++ spread cs values
    else c :: spread cs (value :: values)

@[simp] theorem spread_nil (cs : List (Char × Bool)) : spread cs [] = cs := by
  cases cs <;> rfl

theorem expandFlagged_nil (cs : List (Char × Bool)) :
    expandFlagged cs [] = (cs.map Prod.fst, []) := by
  induction cs with
  | nil => rfl
  | cons c cs ih =>
    obtain ⟨c, code⟩ := c
    simp only [expandFlagged, ih, List.map_cons]
    split
    · rename_i h
      simp only [Bool.and_eq_true, decide_eq_true_eq] at h
      rw [h.2]
    · rfl

theorem expandFlagged_cons (c : Char × Bool) (cs : List (Char × Bool)) (value : Scalar)
    (values : List Scalar) :
    expandFlagged (c :: cs) (value :: values) =
      if isMark c then
        ((expandMark value).1 ++ (expandFlagged cs values).1,
          (expandMark value).2 ++ (expandFlagged cs values).2)
      else
        (c.1 :: (expandFlagged cs (value :: values)).1,
          (expandFlagged cs (value :: values)).2) := rfl

theorem expandFlagged_fst (cs : List (Char × Bool)) (values : List Scalar) :
    (expandFlagged cs values).1 = (spread cs values).map Prod.fst := by
  induction cs generalizing values with
  | nil => cases values <;> rfl
  | cons c cs ih =>
    cases values with
    | nil => rw [expandFlagged_nil, spread_nil]
    | cons value values =>
      rw [expandFlagged_cons, spread]
      split
      · rw [List.map_append, ← ih, List.map_map]
        simp [Function.comp_def]
      · rw [List.map_cons, ← ih]

/-! ## What is written for a mark -/

theorem markList_succ (n : Nat) : markList (n + 2) = '?' :: ',' :: ' ' :: markList (n + 1) := by
  rw [markList, List.replicate_succ, List.replicate_succ, List.intercalate_cons_cons]
  rfl

theorem mem_markList {c : Char} : ∀ {n : Nat}, c ∈ markList n → c = '?' ∨ c = ',' ∨ c = ' '
  | 0, h => absurd h List.not_mem_nil
  | 1, h => Or.inl (List.mem_singleton.1 h)
  | n + 2, h => by
    rw [markList_succ] at h
    simp only [List.mem_cons] at h
    rcases h with h | h | h | h
    · exact Or.inl h
    · exact Or.inr (Or.inl h)
    · exact Or.inr (Or.inr h)
    · exact mem_markList h

/-- The characters that are written for marks. -/
def markChars : List Char := ['?', ',', ' ', '(', ')']

theorem mem_expandMark {value : Scalar} {c : Char} (h : c ∈ (expandMark value).1) :
    c ∈ markChars := by
  cases value with
  | list items =>
    simp only [expandMark, List.cons_append, List.mem_cons, List.mem_append,
      List.not_mem_nil, or_false] at h
    rcases h with rfl | h | rfl
    · decide
    · rcases mem_markList h with rfl | rfl | rfl <;> decide
    · decide
  | _ =>
    obtain rfl := List.mem_singleton.1 h
    decide

theorem mark_or_ordinary_of_mem : ∀ c ∈ markChars, c = '?' ∨ isOrdinary c = true := by
  simp only [markChars, List.forall_mem_cons]
  exact ⟨by decide, by decide, by decide, by decide, by decide, List.forall_mem_nil _⟩

theorem count_markList : ∀ n : Nat, (markList n).count '?' = n
  | 0 => rfl
  | 1 => rfl
  | n + 2 => by
    rw [markList_succ, List.count_cons_self, List.count_cons_of_ne (by decide),
      List.count_cons_of_ne (by decide), count_markList (n + 1)]

/-- A mark is written for each value that is bound in its place. -/
theorem count_expandMark (value : Scalar) :
    (expandMark value).1.count '?' = (expandMark value).2.length := by
  cases value with
  | list items =>
    rw [expandMark, List.count_append, List.count_cons, count_markList]
    rfl
  | _ => rfl

/-! ## The mask of the result -/

/-- Whatever follows, the scanner stays in code over a mark and over ordinary text. -/
theorem Scan.step_of_mark_or_ordinary {c : Char} (h : c = '?' ∨ isOrdinary c = true)
    (look : Option Char) : code.step c look = (true, code) := by
  rcases h with rfl | h
  · simp [step, isQuote]
  · simp only [isOrdinary, Bool.and_eq_true, Bool.not_eq_true', decide_eq_true_eq] at h
    obtain ⟨⟨⟨h1, h2⟩, h3⟩, -⟩ := h
    simp [step, h1, h2, h3]

theorem Scan.flags_append_of_ordinary {a : List Char}
    (h : ∀ c ∈ a, c = '?' ∨ isOrdinary c = true) (b : List Char) (look : Option Char) :
    code.flags (a ++ b) look = List.replicate a.length true ++ code.flags b look := by
  induction a with
  | nil => rfl
  | cons c a ih =>
    rw [List.cons_append, flags_cons, step_of_mark_or_ordinary (h c (by simp)),
      ih fun d hd => h d (by simp [hd])]
    rfl

/-- A mark is met in code. -/
theorem Scan.code_of_isMark {st : Scan} {c : Char} {look : Option Char}
    (h : isMark (c, (st.step c look).1) = true) : st = code ∧ c = '?' := by
  simp only [isMark, Bool.and_eq_true, decide_eq_true_eq] at h
  obtain ⟨hs, rfl⟩ := h
  refine ⟨?_, rfl⟩
  cases st <;> simp_all [step]

/-- What follows a character changes nothing for the scanner when marks are expanded in
    it: a parenthesis or a `?` stands where a `?` stood. -/
theorem Scan.step_spread (st st' : Scan) (c : Char) (cs : List Char) (look : Option Char)
    (values : List Scalar) :
    st.step c (((spread (cs.zip (st'.flags cs look)) values).map Prod.fst).head?.or look) =
      st.step c (cs.head?.or look) := by
  cases cs with
  | nil => rfl
  | cons d cs =>
    rw [flags_cons, List.zip_cons_cons]
    cases values with
    | nil => rfl
    | cons value values =>
      rw [spread]
      split
      · rename_i h
        obtain ⟨-, rfl⟩ := code_of_isMark h
        have hd : ∃ e es, (expandMark value).1 = e :: es ∧ (e = '(' ∨ e = '?') := by
          cases value with
          | list items => exact ⟨_, _, rfl, Or.inl rfl⟩
          | _ => exact ⟨_, _, rfl, Or.inr rfl⟩
        obtain ⟨e, es, he, rfl | rfl⟩ := hd
        · rw [he]; cases st <;> simp [step]
        · rw [he]; rfl
      · rfl

theorem Scan.flags_spread (st : Scan) (cs : List Char) (look : Option Char)
    (values : List Scalar) :
    st.flags ((spread (cs.zip (st.flags cs look)) values).map Prod.fst) look =
      (spread (cs.zip (st.flags cs look)) values).map Prod.snd := by
  induction cs generalizing st values with
  | nil => cases values <;> rfl
  | cons c cs ih =>
    cases values with
    | nil =>
      have hlen := length_flags st (c :: cs) look
      rw [spread_nil, List.map_fst_zip (Nat.le_of_eq hlen.symm),
        List.map_snd_zip (Nat.le_of_eq hlen)]
    | cons value values =>
      rw [flags_cons, List.zip_cons_cons, spread]
      split
      · rename_i h
        -- a mark: the scanner is in code, and stays there over what is written for it
        obtain ⟨rfl, rfl⟩ := code_of_isMark h
        have hs : code.step '?' (cs.head?.or look) = (true, code) :=
          step_of_mark_or_ordinary (Or.inl rfl) _
        have hfst : ((expandMark value).1.map (·, true)).map Prod.fst = (expandMark value).1 := by
          simp [Function.comp_def]
        rw [hs, List.map_append, List.map_append, hfst,
          flags_append_of_ordinary fun c hc => mark_or_ordinary_of_mem c (mem_expandMark hc), ih,
            List.map_map]
        simp [Function.comp_def, List.map_const']
      · rw [List.map_cons, List.map_cons, flags_cons, step_spread, ih]

/-- **The mask of an expanded text**: what is written for marks is code, and the rest is
    what it was. -/
theorem codeMask_spread (cs : List Char) (values : List Scalar) :
    codeMask ((spread (flagged cs) values).map Prod.fst) =
      (spread (flagged cs) values).map Prod.snd := by
  rw [codeMask_eq_flags, flagged, codeMask_eq_flags]
  exact Scan.flags_spread .code cs none values

/-! ## Marks and values -/

theorem count_isMark_expandMark (value : Scalar) :
    (((expandMark value).1.map (·, true)).map isMark).count true =
      (expandMark value).2.length := by
  rw [← count_expandMark, List.map_map, List.count, List.countP_map, List.count]
  exact List.countP_congr fun c _ => by simp [isMark]

/-- A mark that meets a list is replaced by as many marks as values are bound for it. -/
theorem count_spread (cs : List (Char × Bool)) (values : List Scalar) :
    ((spread cs values).map isMark).count true + values.length =
      (expandFlagged cs values).2.length + (cs.map isMark).count true := by
  induction cs generalizing values with
  | nil => cases values <;> simp [spread, expandFlagged]
  | cons c cs ih =>
    cases values with
    | nil => rw [spread_nil, expandFlagged_nil, Nat.add_comm]
    | cons value values =>
      rw [spread, expandFlagged_cons, List.map_cons]
      by_cases h : isMark c = true
      · have := ih values
        rw [if_pos h, if_pos h, h, List.count_cons_self, List.map_append, List.count_append,
          count_isMark_expandMark, List.length_cons, List.length_append]
        omega
      · rw [if_neg h, if_neg h, List.map_cons, Bool.eq_false_iff.2 h,
          List.count_cons_of_ne (by simp), List.count_cons_of_ne (by simp)]
        exact ih (value :: values)

theorem toList_expand_fst (sql : String) (values : List Scalar) :
    (expand sql values).1.toList = (spread (flagged sql.toList) values).map Prod.fst := by
  rw [← expandFlagged_fst]
  exact String.toList_ofList

theorem mem_expandFlagged {cs : List (Char × Bool)} {values : List Scalar} {c : Char}
    (h : c ∈ (expandFlagged cs values).1) : c ∈ cs.map Prod.fst ∨ c ∈ markChars := by
  induction cs generalizing values with
  | nil => cases h
  | cons d cs ih =>
    rw [List.map_cons, List.mem_cons, or_assoc]
    cases values with
    | nil =>
      rw [expandFlagged_nil] at h
      exact (List.mem_cons.1 h).imp_right Or.inl
    | cons value values =>
      rw [expandFlagged_cons] at h
      split at h
      · rcases List.mem_append.1 h with h | h
        · exact Or.inr (Or.inr (mem_expandMark h))
        · exact Or.inr (ih h)
      · exact (List.mem_cons.1 h).imp_right ih

theorem map_fst_flagged (cs : List Char) : (flagged cs).map Prod.fst = cs :=
  List.map_fst_zip (Nat.le_of_eq (codeMask_length cs).symm)

/-- **An expanded text has the characters of the text**, and those that are written for marks. -/
theorem mem_expand {sql : String} {values : List Scalar} {c : Char}
    (h : c ∈ (expand sql values).1.toList) : c ∈ sql.toList ∨ c ∈ markChars := by
  rw [expand, String.toList_ofList] at h
  exact map_fst_flagged sql.toList ▸ mem_expandFlagged h

theorem spread_append {before : List (Char × Bool)} (h : ∀ c ∈ before, isMark c = false)
    (cs : List (Char × Bool)) (values : List Scalar) :
    spread (before ++ cs) values = before ++ spread cs values := by
  induction before with
  | nil => rfl
  | cons c before ih =>
    rw [List.forall_mem_cons] at h
    cases values with
    | nil => rw [spread_nil, spread_nil]
    | cons value values =>
      rw [List.cons_append, spread, if_neg (by simp [h.1]), ih h.2, List.cons_append]

/-- What stands before all marks of a statement stays in front of it. -/
theorem prefix_expand {before : List Char} {sql : String} (hmark : '?' ∉ before)
    (h : before <+: sql.toList) (values : List Scalar) :
    before <+: (expand sql values).1.toList := by
  have hfirst : ((flagged sql.toList).take before.length).map Prod.fst = before := by
    rw [List.map_take, flagged, List.map_fst_zip (Nat.le_of_eq (codeMask_length _).symm)]
    exact (List.prefix_iff_eq_take.1 h).symm
  have hplain : ∀ c ∈ (flagged sql.toList).take before.length, isMark c = false := by
    intro c hc
    have hc' : c.1 ∈ before := by
      rw [← hfirst]
      exact List.mem_map_of_mem hc
    have hne : c.1 ≠ '?' := fun heq => hmark (heq ▸ hc')
    simp [isMark, hne]
  rw [toList_expand_fst, ← List.take_append_drop before.length (flagged sql.toList),
    spread_append hplain, List.map_append, hfirst]
  exact List.prefix_append _ _

/-- **The flagged text of an expansion.** -/
theorem flagged_expand (sql : String) (values : List Scalar) :
    flagged (expand sql values).1.toList = spread (flagged sql.toList) values := by
  rw [toList_expand_fst, flagged, codeMask_spread, List.zip_map']
  exact List.map_id _

/-- **Expansion keeps marks and values in step**: what marks there are too many or too
    few for the values, there are too many or too few afterwards. -/
theorem markCount_expand (sql : String) (values : List Scalar) :
    markCount (expand sql values).1.toList + values.length =
      (expand sql values).2.length + markCount sql.toList := by
  rw [markCount, marks, flagged_expand]
  exact count_spread (flagged sql.toList) values

end Sql

/-! ## The text by the values -/

/-- How many items a value has, if it is a list. -/
def Scalar.width? (v : Scalar) : Option Nat := v.items?.map List.length

namespace Sql

theorem expandMark_fst_of_width {v v' : Scalar} (h : v.width? = v'.width?) :
    (expandMark v).1 = (expandMark v').1 := by
  cases v with
  | list items =>
    cases v' with
    | list items' =>
      have hlen : items.length = items'.length := Option.some.inj h
      rw [expandMark, expandMark, hlen]
    | _ => cases h
  | _ =>
    cases v' with
    | list items' => cases h
    | _ => rfl

theorem expandFlagged_fst_of_width (cs : List (Char × Bool)) {values values' : List Scalar}
    (h : values.map Scalar.width? = values'.map Scalar.width?) :
    (expandFlagged cs values).1 = (expandFlagged cs values').1 := by
  induction cs generalizing values values' with
  | nil => rfl
  | cons c cs ih =>
    cases values with
    | nil =>
      obtain rfl : values' = [] := List.map_eq_nil_iff.1 h.symm
      rfl
    | cons v values =>
      cases values' with
      | nil => cases h
      | cons v' values' =>
        obtain ⟨hv, hvalues⟩ := List.cons.inj h
        rw [expandFlagged_cons, expandFlagged_cons]
        split
        · rw [expandMark_fst_of_width hv, ih hvalues]
        · rw [ih h]

/-- **The text of an expanded statement** depends on its values only by which of them are
    lists, and on how long these are. -/
theorem expand_fst_of_width (sql : String) {values values' : List Scalar}
    (h : values.map Scalar.width? = values'.map Scalar.width?) :
    (expand sql values).1 = (expand sql values').1 :=
  congrArg String.ofList (expandFlagged_fst_of_width (flagged sql.toList) h)

/-! ## Values that are no lists -/

theorem expandMark_of_single {v : Scalar} (h : v.items? = none) :
    expandMark v = (['?'], [v]) := by
  cases v with
  | list items => cases h
  | _ => rfl

theorem expandFlagged_of_single {cs : List (Char × Bool)} {values : List Scalar}
    (h : ∀ v ∈ values.take ((cs.map isMark).count true), v.items? = none) :
    expandFlagged cs values = (cs.map Prod.fst, values) := by
  induction cs generalizing values with
  | nil => rfl
  | cons c cs ih =>
    cases values with
    | nil => exact expandFlagged_nil _
    | cons v values =>
      rw [expandFlagged_cons]
      rw [List.map_cons] at h
      split
      · rename_i hc
        rw [hc, List.count_cons_self, List.take_succ_cons] at h
        rw [expandMark_of_single (h v List.mem_cons_self),
          ih fun v' hv' => h v' (List.mem_cons_of_mem v hv')]
        simp only [isMark, Bool.and_eq_true, decide_eq_true_eq] at hc
        rw [List.map_cons, hc.2]
        rfl
      · rename_i hc
        rw [Bool.eq_false_iff.2 hc, List.count_cons_of_ne (by simp)] at h
        rw [ih h]
        rfl

/-- A statement stays as it is when no list meets a mark of it. -/
theorem expand_of_single_take {sql : String} {values : List Scalar}
    (h : ∀ v ∈ values.take (markCount sql.toList), v.items? = none) :
    expand sql values = (sql, values) := by
  rw [expand, expandFlagged_of_single h]
  simp only [map_fst_flagged, String.ofList_toList]

/-- A statement whose values are no lists is sent as it is. -/
theorem expand_of_single {sql : String} {values : List Scalar}
    (h : ∀ v ∈ values, v.items? = none) : expand sql values = (sql, values) :=
  expand_of_single_take fun v hv => h v (List.mem_of_mem_take hv)

end Sql

end RowQuery
