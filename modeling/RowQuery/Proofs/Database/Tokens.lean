/-
  RowQuery — the tokens of a text, one after the other.

  A text is split into tokens from its front. Each kind of token has a lemma that says how
  a text that begins with one is split: into the token and the tokens of what follows it.

  * `Token.IsPlain`: names that are words and no keywords;
  * `Token.scan_blank`, `Token.scan_word_before`, `Token.scan_lone`, `Token.scan_comparison`,
    `Token.scan_mark`.
-/
import RowQuery.Database.Reading
import RowQuery.Proofs.Sql.CodeMarks

namespace RowQuery

namespace Database

namespace Token

variable {marks : Nat} {gap : List Char}

/-! ## Tokens and what follows them -/

/-- What begins with a gap is split like the rest of it. -/
theorem scan_of_gap {c : Char} {w rest : List Char} (h : start marks c (w ++ rest) = (none, rest)) :
    scan marks gap (c :: (w ++ rest)) = scan marks (gap ++ c :: w) rest := by
  have hsize : (w ++ rest).length - rest.length = w.length := by simp
  rw [scan]
  simp only [h, hsize, List.take_left, List.drop_left]

/-- What begins with a token is split into it and what follows. -/
theorem scan_of_start {c : Char} {w rest : List Char} {kind : TokenKind}
    (h : start marks c (w ++ rest) = (some kind, rest)) :
    scan marks gap (c :: (w ++ rest)) =
      ⟨gap, String.ofList (c :: w), kind⟩ :: scan (lastMark marks kind) [] rest := by
  have hsize : (w ++ rest).length - rest.length = w.length := by simp
  rw [scan]
  simp only [h, hsize, List.take_left, List.drop_left]

theorem scan_nil : scan marks gap [] = [] := by rw [scan]

/-- A blank is part of the gap before the next token. -/
theorem scan_blank (rest : List Char) :
    scan marks gap (' ' :: rest) = scan marks (gap ++ [' ']) rest := by
  have h : start marks ' ' ([] ++ rest) = (none, rest) := rfl
  exact scan_of_gap h

/-! ## Words -/

/-- Whether a text is a word. -/
def isWordText (cs : List Char) : Bool :=
  match cs with
  | c :: cs => beginsWord c && c ≠ '\ufeff' && cs.all continuesWord
  | [] => false

/-- **Plain names**: words that are no keywords. -/
def IsPlain (name : String) : Prop :=
  isWordText name.toList = true ∧ asciiLower name ∉ Reading.reserved

instance (name : String) : Decidable (IsPlain name) :=
  inferInstanceAs (Decidable (_ ∧ _))

theorem isOrdinary_of_continuesWord {c : Char} (h : continuesWord c = true) :
    Sql.isOrdinary c = true := by
  have hne : ∀ other, continuesWord other = false → c ≠ other := by
    rintro other hother rfl
    rw [h] at hother
    cases hother
  simp [Sql.isOrdinary, Sql.isQuote, hne '\x27' rfl, hne '\x22' rfl, hne '\x60' rfl, hne '-' rfl,
    hne '/' rfl, hne '?' rfl]

theorem IsPlain.continuesWord {name : String} (h : IsPlain name) :
    ∀ c ∈ name.toList, Token.continuesWord c = true := by
  intro c hc
  have htext := h.1
  cases hname : name.toList with
  | nil =>
    rw [hname] at hc
    cases hc
  | cons first others =>
    rw [hname, isWordText, Bool.and_eq_true, Bool.and_eq_true] at htext
    rw [hname] at hc
    rcases List.mem_cons.1 hc with rfl | hc
    · simp [Token.continuesWord, htext.1.1]
    · exact List.all_eq_true.1 htext.2 c hc

/-- A plain name has no quotes, no dashes, no slashes and no marks. -/
theorem IsPlain.isOrdinary {name : String} (h : IsPlain name) :
    ∀ c ∈ name.toList, Sql.isOrdinary c = true :=
  fun c hc => isOrdinary_of_continuesWord (h.continuesWord c hc)

theorem IsPlain.semicolon_notMem {name : String} (h : IsPlain name) : ';' ∉ name.toList :=
  fun hc => absurd (h.continuesWord ';' hc) (by decide)

theorem not_isDigit_of_beginsWord {c : Char} (h : beginsWord c = true) : c.isDigit = false := by
  rw [Bool.eq_false_iff]
  intro hd
  have hval : c.toNat = c.val.toNat := rfl
  have hdigit : 48 ≤ c.val.toNat ∧ c.val.toNat ≤ 57 := by
    have hbounds := (Bool.and_eq_true _ _).mp hd
    exact ⟨of_decide_eq_true hbounds.1, of_decide_eq_true hbounds.2⟩
  simp only [beginsWord, Bool.or_eq_true, decide_eq_true_eq] at h
  rcases h with (h | rfl) | h
  · rcases (Bool.or_eq_true _ _).mp h with hupper | hlower
    · have hbounds : 65 ≤ c.val.toNat ∧ c.val.toNat ≤ 90 := of_decide_eq_true hupper
      omega
    · have hbounds := (Bool.and_eq_true _ _).mp hlower
      have hlow : 97 ≤ c.val.toNat := of_decide_eq_true hbounds.1
      omega
  · exact absurd hd (by decide)
  · omega

/-- A character that a word begins with begins nothing else. -/
theorem start_of_beginsWord {c : Char} (h : beginsWord c = true) (hbom : c ≠ '\ufeff')
    {cs : List Char} (hq : cs.head? ≠ some '\x27') :
    start marks c cs = (some .word, cs.dropWhile continuesWord) := by
  have hne : ∀ d, beginsWord d = false → c ≠ d := by
    rintro d hd rfl
    rw [h] at hd
    cases hd
  have hdigit := not_isDigit_of_beginsWord h
  have hblank : Numeral.isBlank c = false := by
    simp [Numeral.isBlank, hne ' ' rfl, hne '\t' rfl, hne '\n' rfl, hne '\x0b' rfl,
      hne '\x0c' rfl, hne '\r' rfl]
  have hquote : Sql.isQuote c = false := by
    simp [Sql.isQuote, hne '\x27' rfl, hne '\x22' rfl, hne '\x60' rfl]
  simp [start, hblank, hquote, hdigit, hbom, hq, h, hne '-' rfl, hne '/' rfl, hne '[' rfl,
    hne '.' rfl, hne '?' rfl]

/-- What may follow a word: no character that goes on with it, and no quote. -/
def EndsWord (rest : List Char) : Prop := ∀ c ∈ rest.head?, continuesWord c = false ∧ c ≠ '\x27'

theorem dropWhile_continuesWord {cs rest : List Char} (hcs : ∀ c ∈ cs, continuesWord c = true)
    (hrest : EndsWord rest) : (cs ++ rest).dropWhile continuesWord = rest := by
  rw [List.dropWhile_append_of_pos hcs]
  cases rest with
  | nil => rfl
  | cons d ds => simp [(hrest d rfl).1]

/-- A word is a token, if it ends where it seems to. -/
theorem scan_word_before {w : String} (hw : isWordText w.toList = true) {rest : List Char}
    (hrest : EndsWord rest) :
    scan marks gap (w.toList ++ rest) = ⟨gap, w, .word⟩ :: scan marks [] rest := by
  cases h : w.toList with
  | nil =>
    rw [h] at hw
    cases hw
  | cons c cs =>
    rw [h] at hw
    simp only [isWordText, Bool.and_eq_true, decide_eq_true_eq, List.all_eq_true] at hw
    obtain ⟨⟨hc, hbom⟩, hcs⟩ := hw
    have hquote : (cs ++ rest).head? ≠ some '\x27' := by
      cases cs with
      | nil => exact fun h => (hrest _ h).2 rfl
      | cons d ds =>
        intro h
        obtain rfl : d = '\x27' := by simpa using h
        have hcont := hcs '\x27' List.mem_cons_self
        exact absurd hcont (by decide)
    have hstart : start marks c (cs ++ rest) = (some .word, rest) := by
      rw [start_of_beginsWord hc hbom hquote, dropWhile_continuesWord hcs hrest]
    have hw : String.ofList (c :: cs) = w := by rw [← h, String.ofList_toList]
    rw [← hw]
    exact scan_of_start hstart

/-- A word ends before a blank. -/
theorem scan_word {w : String} (hw : isWordText w.toList = true) (rest : List Char) :
    scan marks gap (w.toList ++ ' ' :: rest) =
      ⟨gap, w, .word⟩ :: scan marks [] (' ' :: rest) :=
  scan_word_before hw (by rintro c ⟨⟩; decide)

/-! ## Symbols and marks -/

/-- The symbols that are tokens whatever follows. -/
def lone : List Char := ['(', ')', ',', '*']

/-- A parenthesis, a comma or a star is a token, whatever follows. -/
theorem scan_lone {c : Char} (hc : c ∈ lone) (rest : List Char) :
    scan marks gap (c :: rest) =
      ⟨gap, String.ofList [c], .symbol⟩ :: scan marks [] rest := by
  simp only [lone, List.mem_cons, List.not_mem_nil, or_false] at hc
  have hpair : (rest.head?.any fun d => pairs.contains (c, d)) = false := by
    cases rest.head? with
    | none => rfl
    | some d => rcases hc with rfl | rfl | rfl | rfl <;> simp [pairs]
  have hsymbol : symbol c rest = (.symbol, rest) := by
    rw [symbol, hpair]
    rcases hc with rfl | rfl | rfl | rfl <;> rfl
  have hstart : start marks c ([] ++ rest) = (some .symbol, rest) := by
    rw [List.nil_append]
    have hs : start marks c rest = (symbol c rest).map some id := by
      rcases hc with rfl | rfl | rfl | rfl <;> rfl
    rw [hs, hsymbol]
    rfl
  exact scan_of_start hstart

/-- The symbol of a comparison ends before a blank. -/
theorem scan_comparison {op : String} (hop : op ∈ ["=", "!=", ">", "<", ">=", "<="])
    (rest : List Char) :
    scan marks gap (op.toList ++ ' ' :: rest) =
      ⟨gap, op, .symbol⟩ :: scan marks [] (' ' :: rest) := by
  simp only [List.mem_cons, List.not_mem_nil, or_false] at hop
  rcases hop with rfl | rfl | rfl | rfl | rfl | rfl
  · exact scan_of_start (c := '=') (w := []) rfl
  · exact scan_of_start (c := '!') (w := ['=']) rfl
  · exact scan_of_start (c := '>') (w := []) rfl
  · exact scan_of_start (c := '<') (w := []) rfl
  · exact scan_of_start (c := '>') (w := ['=']) rfl
  · exact scan_of_start (c := '<') (w := ['=']) rfl

/-- A mark without a number has the number after that of the mark before it. -/
theorem scan_mark {rest : List Char} (h : rest.head?.all (fun c => !c.isDigit) = true) :
    scan marks gap ('?' :: rest) = ⟨gap, "?", .mark (marks + 1)⟩ :: scan (marks + 1) [] rest := by
  have hdigits : digits? rest = none := by
    cases rest with
    | nil => rfl
    | cons c cs =>
      have hc : c.isDigit = false := by simpa using h
      rw [digits?, List.takeWhile_cons, hc]
      rfl
  have hstart : start marks '?' ([] ++ rest) = (some (.mark (marks + 1)), rest) := by
    have hs : start marks '?' rest = (mark marks rest).map some id := rfl
    rw [List.nil_append, hs, mark, hdigits]
    rfl
  have hlast : lastMark marks (.mark (marks + 1)) = marks + 1 := Nat.max_eq_right (Nat.le_succ _)
  have hscan := @scan_of_start marks gap _ _ _ _ hstart
  rw [hlast] at hscan
  exact hscan

end Token

end Database

end RowQuery
