/-
  RowQuery — the words of texts without quotes and comments.

  All of such a text is code, so its words are those of its parts, as long as the parts are
  separated by a character that no word has.

  * `IsCode`: texts without quotes, dashes and slashes;
  * `words_eq_wordsOf`: all words of such a text are words of its code;
  * `wordsOf_append`, `mem_wordsOf_intercalate`: the words of texts with separators between
    them;
  * `wordsOf_eq_singleton`: a text without separators is one word;
  * `words_expand`: expansion leaves the words of a statement alone.
-/
import RowQuery.Proofs.Sql.Expansion
import RowQuery.Sql.Words

namespace RowQuery

namespace Sql

/-- The words of a text that is all code. -/
def wordsOf (cs : List Char) : List String := (splitWords [] (cs.map Char.toLower)).map String.ofList

/-- A text of marks and ordinary characters, which is all code. -/
def IsCode (cs : List Char) : Prop := ∀ c ∈ cs, c = '?' ∨ isOrdinary c = true

instance (cs : List Char) : Decidable (IsCode cs) :=
  decidable_of_iff (cs.all (fun c => c = '?' ∨ isOrdinary c = true) = true) (by simp [IsCode])

variable {cs cs' : List Char}

theorem isCode_of_isOrdinary (h : ∀ c ∈ cs, isOrdinary c = true) : IsCode cs :=
  fun c hc => Or.inr (h c hc)

theorem isCode_append : IsCode (cs ++ cs') ↔ IsCode cs ∧ IsCode cs' := List.forall_mem_append

theorem isCode_cons {c : Char} :
    IsCode (c :: cs) ↔ (c = '?' ∨ isOrdinary c = true) ∧ IsCode cs := List.forall_mem_cons

theorem codeMask_of_isCode (h : IsCode cs) : codeMask cs = List.replicate cs.length true := by
  have hflags := Scan.flags_append_of_ordinary h [] none
  rw [List.append_nil, Scan.flags_nil, List.append_nil] at hflags
  rw [codeMask_eq_flags, hflags]

theorem flagged_of_isCode (h : IsCode cs) : flagged cs = cs.map (·, true) := by
  rw [flagged, codeMask_of_isCode h, ← List.map_const', ← List.map_prod_left_eq_zip]

theorem codeText_of_isCode (h : IsCode cs) : codeText cs = cs.map Char.toLower := by
  rw [codeText, flagged_of_isCode h, List.map_map]
  rfl

theorem words_eq_wordsOf {sql : String} (h : IsCode sql.toList) :
    words sql = wordsOf sql.toList := by
  rw [words, codeText_of_isCode h, wordsOf]

/-! ## Words of parts -/

/-- Whether a character separates words. -/
def Separates (c : Char) : Prop := isWordChar c.toLower = false

instance (c : Char) : Decidable (Separates c) := inferInstanceAs (Decidable (_ = _))

theorem splitWords_append_of_separators (h : ∀ c ∈ cs, isWordChar c = false) (hne : cs ≠ [])
    (rest : List Char) (word : List Char) :
    splitWords word (cs ++ rest) = finished word ++ splitWords [] rest := by
  induction cs generalizing word with
  | nil => exact absurd rfl hne
  | cons c cs ih =>
    rw [List.forall_mem_cons] at h
    rw [List.cons_append, splitWords, if_neg (by simp [h.1])]
    cases cs with
    | nil => rfl
    | cons d cs => rw [ih h.2 (List.cons_ne_nil d cs)]; rfl

/-- The words of two texts with separators between them are those of both. -/
theorem splitWords_around (h : ∀ c ∈ cs, isWordChar c = false) (hne : cs ≠ [])
    (before rest word : List Char) :
    splitWords word (before ++ (cs ++ rest)) = splitWords word before ++ splitWords [] rest := by
  induction before generalizing word with
  | nil => exact splitWords_append_of_separators h hne rest word
  | cons d before ih =>
    rw [List.cons_append, splitWords, splitWords]
    split
    · exact ih _
    · rw [ih, List.append_assoc]

theorem splitWords_append {c : Char} (hc : isWordChar c = false) (cs rest word : List Char) :
    splitWords word (cs ++ c :: rest) = splitWords word cs ++ splitWords [] rest :=
  splitWords_around (List.forall_mem_singleton.2 hc) (List.cons_ne_nil c []) cs rest word

/-- **The words of two texts with a separator between them** are those of both. -/
theorem wordsOf_append {c : Char} (hc : Separates c) (cs rest : List Char) :
    wordsOf (cs ++ c :: rest) = wordsOf cs ++ wordsOf rest := by
  rw [wordsOf, List.map_append, List.map_cons, splitWords_append hc, List.map_append]
  rfl

theorem wordsOf_cons {c : Char} (hc : Separates c) (rest : List Char) :
    wordsOf (c :: rest) = wordsOf rest := by
  have h := wordsOf_append hc [] rest
  simpa [wordsOf, splitWords, finished] using h

/-- Separators alone make no words. -/
theorem wordsOf_eq_nil {cs : List Char} (h : ∀ c ∈ cs, Separates c) : wordsOf cs = [] := by
  induction cs with
  | nil => rfl
  | cons c cs ih =>
    rw [List.forall_mem_cons] at h
    rw [wordsOf_cons h.1, ih h.2]

/-- The words of names with commas between them are those of the names. -/
theorem mem_wordsOf_intercalate {w : String} {names : List String}
    (h : w ∈ wordsOf (", ".intercalate names).toList) : ∃ name ∈ names, w ∈ wordsOf name.toList := by
  rw [String.toList_intercalate] at h
  induction names with
  | nil => simp [wordsOf, splitWords, finished] at h
  | cons name names ih =>
    cases names with
    | nil => exact ⟨name, List.mem_cons_self, by simpa using h⟩
    | cons other others =>
      have htext : ", ".toList.intercalate ((name :: other :: others).map String.toList) =
          name.toList ++ ',' :: ' ' ::
            ", ".toList.intercalate ((other :: others).map String.toList) := by
        simp [List.intercalate_cons_cons]
      rw [htext, wordsOf_append (by decide), wordsOf_cons (by decide), List.mem_append] at h
      rcases h with h | h
      · exact ⟨name, List.mem_cons_self, h⟩
      · obtain ⟨found, hfound, hw⟩ := ih h
        exact ⟨found, List.mem_cons_of_mem name hfound, hw⟩

/-- A text without separators is one word. -/
theorem splitWords_of_isWordChar (h : ∀ c ∈ cs, isWordChar c = true) :
    ∀ word, splitWords word cs = finished (word ++ cs) := by
  induction cs with
  | nil =>
    intro word
    rw [List.append_nil]
    rfl
  | cons c cs ih =>
    intro word
    rw [List.forall_mem_cons] at h
    rw [splitWords, if_pos h.1, ih h.2, List.append_assoc, List.singleton_append]

theorem wordsOf_eq_singleton (h : ∀ c ∈ cs, isWordChar c.toLower = true) (hne : cs ≠ []) :
    wordsOf cs = [String.ofList (cs.map Char.toLower)] := by
  have hwords : ∀ c ∈ cs.map Char.toLower, isWordChar c = true := by
    intro c hc
    obtain ⟨d, hd, rfl⟩ := List.mem_map.1 hc
    exact h d hd
  have hlower : ¬ (cs.map Char.toLower).isEmpty = true := by simpa using hne
  rw [wordsOf, splitWords_of_isWordChar hwords, List.nil_append, finished, if_neg hlower]
  rfl

/-- A statement whose first word is SELECT returns rows. -/
theorem returnsRows_of_select {sql : String} {rest : List Char} (hcode : IsCode sql.toList)
    (htext : sql.toList = "SELECT".toList ++ ' ' :: rest) : returnsRows sql = true := by
  have hselect : wordsOf "SELECT".toList = ["select"] := by decide
  rw [returnsRows, words_eq_wordsOf hcode, htext, wordsOf_append (by decide), hselect]
  rfl

/-! ## Words of an expanded statement -/

/-- What is written for a mark separates words, as the mark does. -/
theorem separates_of_mem : ∀ c ∈ markChars, isWordChar c.toLower = false := by
  simp only [markChars, List.forall_mem_cons]
  exact ⟨by decide, by decide, by decide, by decide, by decide, List.forall_mem_nil _⟩

/-- A flagged character as words are read from it. -/
def readChar (c : Char × Bool) : Char := if c.2 then c.1.toLower else ' '

theorem splitWords_spread (cs : List (Char × Bool)) (values : List Scalar) (word : List Char) :
    splitWords word ((spread cs values).map readChar) = splitWords word (cs.map readChar) := by
  induction cs generalizing values word with
  | nil => cases values <;> rfl
  | cons c cs ih =>
    cases values with
    | nil => rw [spread_nil]
    | cons value values =>
      rw [spread]
      split
      · rename_i hc
        -- the mark ends a word, and so does what is written in its place
        simp only [isMark, Bool.and_eq_true, decide_eq_true_eq] at hc
        have hmark : readChar c = '?' := by rw [readChar, if_pos hc.1, hc.2]; rfl
        have hwritten : ((expandMark value).1.map (·, true)).map readChar =
            (expandMark value).1.map Char.toLower := by
          rw [List.map_map]
          exact List.map_congr_left fun d _ => rfl
        have hne : (expandMark value).1.map Char.toLower ≠ [] := by
          cases value <;> exact List.cons_ne_nil _ _
        have hsep : ∀ d ∈ (expandMark value).1.map Char.toLower, isWordChar d = false := by
          intro d hd
          obtain ⟨e, he, rfl⟩ := List.mem_map.1 hd
          exact separates_of_mem _ (mem_expandMark he)
        rw [List.map_append, hwritten, splitWords_append_of_separators hsep hne, ih,
          List.map_cons, hmark]
        rfl
      · rw [List.map_cons, List.map_cons, splitWords, splitWords, ih, ih]

/-- **Expansion leaves the words of a statement alone.** -/
theorem words_expand (sql : String) (values : List Scalar) :
    words (expand sql values).1 = words sql := by
  have hread : ∀ cs, codeText cs = (flagged cs).map readChar := fun _ => rfl
  rw [words, words, hread, hread, flagged_expand, splitWords_spread]

end Sql

end RowQuery
