/-
  RowQuery — the marks of a statement, and the names that leave them alone.

  A mark is a `?` in the code of a statement. Names are written into statements as they
  are; a name is closed when the text after it is code again and it has no mark itself.

  * `marks` has one flag per character, true for a mark;
  * `marks_append_of_closed`, `marks_append_of_ordinary`: the marks after a closed name,
    or after a text without quotes, dashes and slashes, are those of the rest.
-/
import RowQuery.Proofs.Sql.Scanner

namespace RowQuery

namespace Sql

/-- Whether a flagged character is a mark. -/
def isMark (c : Char × Bool) : Bool := c.2 && c.1 = '?'

/-- One flag per character: whether it is a mark. -/
def marks (cs : List Char) : List Bool := (flagged cs).map isMark

/-- How many marks a text has. -/
def markCount (cs : List Char) : Nat := (marks cs).count true

/-- **Closed names**: scanned before a blank, the blank is code and no `?` of the name
    is. -/
def Closed (name : String) : Prop :=
  (codeMask (name.toList ++ [' '])).getLast? = some true ∧
    ∀ c ∈ flagged (name.toList ++ [' ']), c.1 = '?' → c.2 = false

instance (name : String) : Decidable (Closed name) :=
  let flags := Scan.code.flags (name.toList ++ [' ']) none
  decidable_of_iff (flags.getLast? = some true ∧
      ∀ c ∈ (name.toList ++ [' ']).zip flags, c.1 = '?' → c.2 = false)
    (by rw [Closed, flagged, codeMask_eq_flags])

namespace Scan

/-- The marks of a text before a continuation that begins with `look`. -/
def marks (st : Scan) (cs : List Char) (look : Option Char) : List Bool :=
  (cs.zip (st.flags cs look)).map isMark

theorem marks_cons (st : Scan) (c : Char) (cs : List Char) (look : Option Char) :
    st.marks (c :: cs) look =
      isMark (c, (st.step c (cs.head?.or look)).1) ::
        (st.step c (cs.head?.or look)).2.marks cs look := rfl

theorem marks_append (st : Scan) (a b : List Char) (look : Option Char) :
    st.marks (a ++ b) look =
      st.marks a (b.head?.or look) ++ (st.after a (b.head?.or look)).marks b look := by
  rw [marks, flags_append, List.zip_append (length_flags st a _).symm, List.map_append]
  rfl

end Scan

theorem marks_eq_scan (cs : List Char) : marks cs = Scan.code.marks cs none := by
  rw [marks, flagged, codeMask_eq_flags]
  rfl

/-! ## Names and other text -/

/-- What may follow a name: it makes no opening of a comment with the end of the name. -/
def Follows (look : Option Char) : Prop := look ≠ some '-' ∧ look ≠ some '*'

theorem Follows.not_opensComment {look : Option Char} (hl : Follows look) (last : Option Char) :
    ¬ OpensComment last look := by
  rintro (⟨-, hdash⟩ | ⟨-, hstar⟩)
  · exact hl.1 hdash
  · exact hl.2 hstar

/-- A scanner that is in code after a text before a blank does the same before anything
    that may follow a name. -/
theorem Scan.after_of_follows {a : List Char} {look : Option Char} (hl : Follows look)
    {st : Scan} (h : st.after a (some ' ') = .code) :
    st.after a look = .code ∧ st.flags a look = st.flags a (some ' ') :=
  Scan.after_of_not_opensComment h (hl.not_opensComment _)

theorem Scan.step_blank {st : Scan} (h : (st.step ' ' none).1 = true) : st = .code := by
  cases st <;> simp_all [step]

/-- The scanner is in code after a closed name. -/
theorem Closed.after {name : String} (h : Closed name) :
    Scan.code.after name.toList (some ' ') = .code := by
  have hlast := h.1
  rw [codeMask_eq_flags, Scan.flags_append, Scan.flags_cons] at hlast
  simp only [List.head?_cons, Option.some_or, List.head?_nil, Scan.flags_nil,
    List.getLast?_append, List.getLast?_singleton, Option.some.injEq, Option.none_or] at hlast
  exact Scan.step_blank hlast

/-- A closed name has no mark. -/
theorem Closed.marks {name : String} (h : Closed name) :
    Scan.code.marks name.toList (some ' ') = List.replicate name.toList.length false := by
  have hno := h.2
  rw [flagged, codeMask_eq_flags, Scan.flags_append,
    List.zip_append (Scan.length_flags _ _ _).symm] at hno
  rw [Scan.marks, List.eq_replicate_iff]
  refine ⟨by simp [Scan.length_flags], fun m hm => ?_⟩
  obtain ⟨⟨c, code⟩, hc, rfl⟩ := List.mem_map.1 hm
  have := hno _ (List.mem_append_left _ hc)
  rw [isMark]
  by_cases hq : c = '?'
  · rw [this hq]; rfl
  · simp [hq]

/-- **The marks after a closed name are those of the rest.** -/
theorem marks_append_of_closed {name : String} (h : Closed name) {rest : List Char}
    (hr : Follows rest.head?) :
    marks (name.toList ++ rest) = List.replicate name.toList.length false ++ marks rest := by
  obtain ⟨h1, h2⟩ := Scan.after_of_follows hr h.after
  have h3 := h.marks
  rw [Scan.marks, ← h2] at h3
  rw [marks_eq_scan, Scan.marks_append, Option.or_none, h1, Scan.marks, h3, ← marks_eq_scan]

/-- Whether a character is neither a `?` nor part of what begins opaque text. -/
def isOrdinary (c : Char) : Bool := !isQuote c && c ≠ '-' && c ≠ '/' && c ≠ '?'

theorem isOrdinary_of_isDigit {c : Char} (h : c.isDigit = true) : isOrdinary c = true := by
  have hne : ∀ d : Char, d.isDigit = false → c ≠ d := fun d hd hcd => by
    rw [hcd, hd] at h
    cases h
  simp [isOrdinary, isQuote, hne '\x27' rfl, hne '\x22' rfl, hne '\x60' rfl, hne '-' rfl,
    hne '/' rfl, hne '?' rfl]

theorem marks_cons_of_ordinary {c : Char} (h : isOrdinary c = true) (rest : List Char) :
    marks (c :: rest) = false :: marks rest := by
  simp only [isOrdinary, Bool.and_eq_true, Bool.not_eq_true', decide_eq_true_eq] at h
  obtain ⟨⟨⟨h1, h2⟩, h3⟩, h4⟩ := h
  rw [marks_eq_scan, Scan.marks_cons, marks_eq_scan]
  simp [Scan.step, h1, h2, h3, h4, isMark]

/-- The marks after ordinary text are those of the rest. -/
theorem marks_append_of_ordinary {cs : List Char} (h : cs.all isOrdinary = true)
    (rest : List Char) : marks (cs ++ rest) = List.replicate cs.length false ++ marks rest := by
  induction cs with
  | nil => rfl
  | cons c cs ih =>
    rw [List.all_cons, Bool.and_eq_true] at h
    rw [List.cons_append, marks_cons_of_ordinary h.1, ih h.2, List.length_cons,
      List.replicate_succ, List.cons_append]

/-- A mark in code is one. -/
theorem marks_cons_mark (rest : List Char) : marks ('?' :: rest) = true :: marks rest := by
  rw [marks_eq_scan, Scan.marks_cons, marks_eq_scan]
  simp [Scan.step, isQuote, isMark]

end Sql

end RowQuery
