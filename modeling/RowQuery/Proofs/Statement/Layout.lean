/-
  RowQuery — layouts of statements.

  A layout is the text of a statement in pieces: plain text, and marks with the values
  they stand for. That its marks are those of the text is shown from its pieces, each
  of which is looked at before any text that may follow it.

  * `Layout.text`, `Layout.marks`, `Layout.slots`: the text, where the marks are, and
    what they stand for;
  * `Layout.Firm`: the marks are those of the text whatever follows;
  * `Layout.Sound`: the same before anything but what makes the opening of a comment
    with the end of a name;
  * `Layout.Sound.marks_text`, `Layout.Sound.markCount_text`: of a whole text.
-/
import RowQuery.Proofs.Sql.CodeMarks
import RowQuery.Scalar

namespace RowQuery

/-- A piece of a statement. -/
inductive Piece where
  | plain (s : String)
  /-- The mark of the value of a name. -/
  | mark (name : String) (value : Scalar)

namespace Piece

/-- The text of a piece. -/
def text : Piece → List Char
  | plain s => s.toList
  | mark .. => ['?']

/-- One flag per character of a piece: whether it is a mark. -/
def marks : Piece → List Bool
  | plain s => List.replicate s.toList.length false
  | mark .. => [true]

/-- What a mark stands for. -/
def slot? : Piece → Option (String × Scalar)
  | plain _ => none
  | mark name value => some (name, value)

end Piece

/-- The pieces of a statement. -/
abbrev Layout := List Piece

namespace Layout

/-- The text of a layout. -/
def text (L : Layout) : List Char := L.flatMap Piece.text

/-- One flag per character of a layout: whether it is a mark. -/
def marks (L : Layout) : List Bool := L.flatMap Piece.marks

/-- What the marks stand for, in order: the values of names. -/
def slots (L : Layout) : List (String × Scalar) := L.filterMap Piece.slot?

@[simp] theorem text_nil : text [] = [] := rfl

@[simp] theorem text_cons (p : Piece) (L : Layout) : text (p :: L) = p.text ++ L.text := rfl

@[simp] theorem text_append (A B : Layout) : text (A ++ B) = A.text ++ B.text := List.flatMap_append

@[simp] theorem slots_nil : slots [] = [] := rfl

@[simp] theorem slots_plain (s : String) (L : Layout) : slots (.plain s :: L) = L.slots := rfl

@[simp] theorem slots_mark (name : String) (value : Scalar) (L : Layout) :
    slots (.mark name value :: L) = (name, value) :: L.slots := rfl

@[simp] theorem slots_append (A B : Layout) : slots (A ++ B) = A.slots ++ B.slots :=
  List.filterMap_append

theorem marks_append (A B : Layout) : marks (A ++ B) = A.marks ++ B.marks := List.flatMap_append

theorem count_marks (L : Layout) : L.marks.count true = L.slots.length := by
  induction L with
  | nil => rfl
  | cons p L ih =>
    rw [marks, List.flatMap_cons, List.count_append, ← marks, ih]
    cases p with
    | plain s => rw [slots_plain, Piece.marks, List.count_replicate]; simp
    | mark name value => rw [slots_mark, Piece.marks, List.length_cons, Nat.add_comm]; rfl

/-- The place of a mark in a layout: before it are the marks of the slots before its own. -/
theorem exists_mark {L : Layout} {k : Nat} {slot : String × Scalar}
    (h : L.slots[k]? = some slot) :
    ∃ A B : Layout, L = A ++ .mark slot.1 slot.2 :: B ∧ A.slots.length = k := by
  induction L generalizing k with
  | nil => cases h
  | cons p L ih =>
    cases p with
    | plain s =>
      obtain ⟨A, B, rfl, hk⟩ := ih h
      exact ⟨.plain s :: A, B, rfl, hk⟩
    | mark name value =>
      cases k with
      | zero =>
        obtain rfl := Option.some.inj h
        exact ⟨[], L, rfl, rfl⟩
      | succ k =>
        obtain ⟨A, B, rfl, hk⟩ := ih h
        exact ⟨.mark name value :: A, B, rfl, congrArg Nat.succ hk⟩

/-! ## Layouts with plain text between them -/

/-- Layouts with a plain text between them. -/
def separated (separator : String) (Ls : List Layout) : Layout :=
  [Piece.plain separator].intercalate Ls

@[simp] theorem separated_nil (separator : String) : separated separator [] = [] := rfl

@[simp] theorem separated_single (separator : String) (L : Layout) :
    separated separator [L] = L := by simp [separated]

theorem separated_cons_cons (separator : String) (L M : Layout) (Ls : List Layout) :
    separated separator (L :: M :: Ls) =
      L ++ .plain separator :: separated separator (M :: Ls) := by
  rw [separated, List.intercalate_cons_cons, List.append_assoc]; rfl

theorem text_separated (separator : String) (Ls : List Layout) :
    (separated separator Ls).text = separator.toList.intercalate (Ls.map text) := by
  induction Ls with
  | nil => rfl
  | cons L Ls ih =>
    cases Ls with
    | nil => simp
    | cons M Ls =>
      rw [separated_cons_cons, text_append, text_cons, ih]
      simp only [List.map_cons, List.intercalate_cons_cons, List.append_assoc]
      rfl

theorem slots_separated (separator : String) (Ls : List Layout) :
    (separated separator Ls).slots = Ls.flatMap slots := by
  induction Ls with
  | nil => rfl
  | cons L Ls ih =>
    cases Ls with
    | nil => simp
    | cons M Ls =>
      rw [separated_cons_cons, slots_append, slots_plain, ih]
      rfl

/-! ## Layouts whose marks are those of their text -/

/-- The marks of a layout are those of its text, whatever follows. -/
def Firm (L : Layout) : Prop :=
  ∀ rest, Sql.marks (L.text ++ rest) = L.marks ++ Sql.marks rest

/-- The marks of a layout are those of its text before what may follow a name. -/
def Sound (L : Layout) : Prop :=
  ∀ rest, Sql.Follows rest.head? → Sql.marks (L.text ++ rest) = L.marks ++ Sql.marks rest

theorem marks_plain (s : String) :
    marks [.plain s] = List.replicate s.toList.length false := List.append_nil _

theorem firm_plain {s : String} (h : s.toList.all Sql.isOrdinary = true) : Firm [.plain s] := by
  intro rest
  rw [text_cons, text_nil, List.append_nil, marks_plain]
  exact Sql.marks_append_of_ordinary h rest

theorem firm_mark (name : String) (value : Scalar) : Firm [.mark name value] := by
  intro rest
  exact Sql.marks_cons_mark rest

theorem sound_name {name : String} (h : Sql.Closed name) : Sound [.plain name] := by
  intro rest hr
  rw [text_cons, text_nil, List.append_nil, marks_plain]
  exact Sql.marks_append_of_closed h hr

/-- After firm text anything sound is sound. -/
theorem Firm.append {A B : Layout} (hA : A.Firm) (hB : B.Sound) : (A ++ B).Sound := by
  intro rest hr
  rw [text_append, List.append_assoc, hA, hB rest hr, marks_append, List.append_assoc]

/-- Whether a text is ordinary and may follow a name. -/
def isGlue (s : String) : Bool := s.toList.all Sql.isOrdinary && s.toList.head?.any (· ≠ '*')

theorem follows_of_isGlue {s : String} (h : isGlue s = true) (cs : List Char) :
    Sql.Follows (s.toList ++ cs).head? := by
  rw [isGlue, Bool.and_eq_true] at h
  obtain ⟨hall, hhead⟩ := h
  cases hs : s.toList with
  | nil =>
    rw [hs] at hhead
    cases hhead
  | cons c cs =>
    rw [hs, List.all_cons, Bool.and_eq_true] at hall
    have hdash : c ≠ '-' := by
      rintro rfl
      exact absurd hall.1 (by decide)
    have hstar : c ≠ '*' := by simpa [hs] using hhead
    exact ⟨by simpa using hdash, by simpa using hstar⟩

/-- After a name anything sound behind a text that may follow the name. -/
theorem Sound.glue {A B : Layout} (hA : A.Sound) {s : String} (hs : isGlue s = true)
    (hB : B.Sound) : (A ++ .plain s :: B).Sound := by
  intro rest hr
  have hfirm : Firm [.plain s] := firm_plain (Bool.and_eq_true _ _ ▸ hs).1
  have hsound : Sound (.plain s :: B) := hfirm.append hB
  have hfollows : Sql.Follows (text (.plain s :: B) ++ rest).head? := by
    rw [text_cons, List.append_assoc]
    exact follows_of_isGlue hs _
  rw [text_append, List.append_assoc, hA _ hfollows, hsound rest hr, marks_append,
    List.append_assoc]

theorem sound_nil : Sound [] := fun _ _ => rfl

theorem sound_plain {s : String} (h : s.toList.all Sql.isOrdinary = true) {L : Layout}
    (hL : L.Sound) : Sound (.plain s :: L) := (firm_plain h).append hL

theorem sound_mark (name : String) (value : Scalar) {L : Layout} (hL : L.Sound) :
    Sound (.mark name value :: L) := (firm_mark name value).append hL

theorem sound_name_cons {name : String} (h : Sql.Closed name) {s : String}
    (hs : isGlue s = true) {L : Layout} (hL : L.Sound) : Sound (.plain name :: .plain s :: L) :=
  (sound_name h).glue hs hL

/-- Sound layouts with a text between them that may follow a name. -/
theorem sound_separated {separator : String} (hs : isGlue separator = true) {Ls : List Layout}
    (h : ∀ L ∈ Ls, L.Sound) : (separated separator Ls).Sound := by
  induction Ls with
  | nil => exact sound_nil
  | cons L Ls ih =>
    have hfirst : L.Sound := h L (by simp)
    cases Ls with
    | nil => rwa [separated_single]
    | cons M Ls =>
      rw [separated_cons_cons]
      exact hfirst.glue hs (ih fun N hN => h N (List.mem_cons_of_mem _ hN))

/-- **The marks of a sound layout are those of its text.** -/
theorem Sound.marks_text {L : Layout} (h : L.Sound) : Sql.marks L.text = L.marks := by
  have hfollows : Sql.Follows ([] : List Char).head? := ⟨by simp, by simp⟩
  have hmarks := h [] hfollows
  rw [List.append_nil] at hmarks
  rw [hmarks]
  exact List.append_nil _

/-- A sound layout has one mark in its text for each value. -/
theorem Sound.markCount_text {L : Layout} (h : L.Sound) :
    Sql.markCount L.text = L.slots.length := by
  rw [Sql.markCount, h.marks_text, count_marks]

end Layout

end RowQuery
