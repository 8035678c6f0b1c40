/-
  RowQuery — the names in a statement, and the words in a name.

  A name is a longest stretch of the characters that a bare identifier or a keyword may have:
  letters, digits, underscores, dollar signs, and all that is not ASCII. Not all of these are part
  of words, so that a name may be cut into several words; and no word is cut off from anything
  else. A keyword is a name of its own, while a word can be a part of one.

  * `Sql.names`: the names of a statement; `Sql.parts`: the words that a name is cut into;
  * `Sql.words_eq_flatMap_parts`: the words of a statement are those of its names;
  * `Sql.IsWrite`: a statement that changes rows and does not ask for them, as its names tell;
  * `Sql.IsWrite.returnsRows`: it is not taken for one that returns rows.
-/
import RowQuery.Sql.Words

namespace RowQuery

namespace Sql

/-! ## Names -/

/-- Whether a character can be part of a name. -/
def isNameChar (c : Char) : Bool := c.isAlphanum || c = '_' || c = '$' || 0x80 ≤ c.toNat

/-- The names of a statement, in ASCII lower case. -/
def names (sql : String) : List String :=
  (((codeText sql.toList).splitOnP fun c => !isNameChar c).filter (· ≠ [])).map String.ofList

/-- The words that a name is cut into. -/
def parts (name : String) : List String := (splitWords [] name.toList).map String.ofList

/-- What can be part of a word can be part of a name. -/
theorem isNameChar_of_isWordChar {c : Char} (h : isWordChar c = true) : isNameChar c = true := by
  simp only [isWordChar, isAlphanumeric, Bool.or_eq_true, decide_eq_true_eq] at h
  simp only [isNameChar, Bool.or_eq_true, decide_eq_true_eq]
  split at h
  · exact Or.inl (Or.inl h)
  · exact Or.inr (Nat.not_lt.1 ‹_›)

/-- Words are read stretch by stretch. -/
theorem splitWords_eq_flatMap (cs word : List Char) {stretch : List Char}
    {stretches : List (List Char)}
    (h : cs.splitOnP (fun c => !isNameChar c) = stretch :: stretches) :
    splitWords word cs = splitWords word stretch ++ stretches.flatMap (splitWords []) := by
  induction cs generalizing word stretch stretches with
  | nil =>
    rw [List.splitOnP_nil] at h
    cases h
    rw [List.flatMap_nil, List.append_nil]
  | cons c cs ih =>
    obtain ⟨first, others, hcs⟩ := List.exists_cons_of_ne_nil
      (List.splitOnP_ne_nil (fun c => !isNameChar c) cs)
    rw [List.splitOnP_cons_eq_if_modifyHead, hcs] at h
    by_cases hname : isNameChar c = true
    · rw [hname] at h
      obtain ⟨rfl, rfl⟩ := List.cons.inj h
      rw [splitWords, splitWords]
      split
      · exact ih _ hcs
      · rw [ih [] hcs, List.append_assoc]
    · rw [Bool.not_eq_true] at hname
      have hword : ¬ isWordChar c = true := fun hc =>
        Bool.noConfusion (hname.symm.trans (isNameChar_of_isWordChar hc))
      rw [hname] at h
      obtain ⟨rfl, rfl⟩ := List.cons.inj h
      rw [splitWords.eq_2, if_neg hword, ih [] hcs, List.flatMap_cons]
      rfl

/-- **The words of a statement are those of its names.** -/
theorem words_eq_flatMap_parts (sql : String) : words sql = (names sql).flatMap parts := by
  obtain ⟨first, others, hsplit⟩ := List.exists_cons_of_ne_nil
    (List.splitOnP_ne_nil (fun c => !isNameChar c) (codeText sql.toList))
  have hempty : ∀ stretches : List (List Char), stretches.flatMap (splitWords []) =
      (stretches.filter (· ≠ [])).flatMap (splitWords []) := by
    intro stretches
    induction stretches with
    | nil => rfl
    | cons s stretches ih => cases s <;> simp_all [splitWords, finished]
  have hstretches : splitWords [] (codeText sql.toList) =
      ((first :: others).filter (· ≠ [])).flatMap (splitWords []) := by
    rw [splitWords_eq_flatMap _ _ hsplit, ← hempty]
    rfl
  have hparts : (fun s => parts (String.ofList s)) = fun s => (splitWords [] s).map String.ofList := by
    funext s
    rw [parts, String.toList_ofList]
  rw [words, names, hsplit, hstretches, List.map_flatMap, List.flatMap_map, hparts]

/-! ## Statements that change rows -/

/-- The first words of statements that change rows. -/
def writingWords : List String := ["insert", "update", "delete"]

/-- **A statement that changes rows and does not ask for them**: its first name is a writing word,
    no name of it is RETURNING, and no other name is cut so that this word comes off. -/
structure IsWrite (s : String) : Prop where
  first : ∃ word ∈ writingWords, (names s).head? = some word
  silent : "returning" ∉ names s
  whole : ∀ name ∈ names s, name ≠ "returning" → "returning" ∉ parts name

/-- Such a statement is not taken for one that returns rows. -/
theorem IsWrite.returnsRows {s : String} (h : IsWrite s) : returnsRows s = false := by
  obtain ⟨word, hword, hfirst⟩ := h.first
  obtain ⟨others, hnames⟩ := List.head?_eq_some_iff.1 hfirst
  have hwriting : ∀ word ∈ writingWords, parts word = [word] ∧ readingWords.contains word = false := by
    decide
  obtain ⟨hparts, hreads⟩ := hwriting word hword
  have hwords : words s = word :: others.flatMap parts := by
    rw [words_eq_flatMap_parts, hnames, List.flatMap_cons, hparts, List.singleton_append]
  have hlater : (others.flatMap parts).contains "returning" = false := by
    rw [Bool.eq_false_iff, ne_eq, List.contains_iff_mem, List.mem_flatMap]
    rintro ⟨name, hname, hpart⟩
    have hmem : name ∈ names s := hnames ▸ List.mem_cons_of_mem word hname
    exact h.whole name hmem (fun heq => h.silent (heq ▸ hmem)) hpart
  rw [Sql.returnsRows, hwords]
  simp only [hreads, hlater, Bool.or_self]

end Sql

end RowQuery
