/-
  RowQuery — line breaks in texts of JSON trees.

  The plain text of a tree stays on one line: what is below U+0020 is escaped wherever a key or
  a string has it, and nothing else that is written is a control character. The indented text
  breaks its lines between lexemes only, where white space does not count, so that the two
  texts of a tree are cut into the same lexemes.

  * `Inline`: a text without control characters;
  * `Json.inline_chars`: **the plain text of a tree is one**;
  * `Json.scan_prettyChars`: **the indented text of a tree is cut into its lexemes**, whatever
    follows it;
  * `Json.ofText_pretty`: an indented text has the draft of its tree.
-/
import RowQuery.Proofs.Json.Text

namespace RowQuery

/-! ## Without line breaks -/

/-- **A text stays on its line**: it has no control character, so that neither a line feed nor a
    carriage return is in it. -/
def Inline (cs : List Char) : Prop := ∀ c ∈ cs, 0x20 ≤ c.toNat

section
variable {c : Char} {cs cs' : List Char}

@[simp] theorem inline_nil : Inline [] := List.forall_mem_nil _

@[simp] theorem inline_cons : Inline (c :: cs) ↔ 0x20 ≤ c.toNat ∧ Inline cs := List.forall_mem_cons

@[simp] theorem inline_append : Inline (cs ++ cs') ↔ Inline cs ∧ Inline cs' :=
  List.forall_mem_append

theorem Inline.lineFeed_notMem (h : Inline cs) : '\n' ∉ cs := fun hmem =>
  absurd (h '\n' hmem) (by decide)

/-- Digits are no control characters. -/
theorem inline_of_isDigit (h : ∀ c ∈ cs, c.isDigit = true) : Inline cs := by
  intro c hc
  have hdigit : 48 ≤ c.toNat ∧ c.toNat ≤ 57 := by
    simpa [Char.isDigit, UInt32.le_iff_toNat_le] using h c hc
  omega

end

/-! ### Numbers -/

theorem Spelling.inline_chars {s : Spelling} (h : s.Valid) : Inline s.chars := by
  have hfraction : Inline s.fractionChars := by
    rw [fractionChars]
    split
    · exact inline_nil
    · rename_i ds hds
      exact inline_cons.2 ⟨by decide, inline_of_isDigit (h.fraction ds hds).2⟩
  have hpower : Inline s.powerChars := by
    rw [powerChars]
    split
    · exact inline_nil
    · rename_i negative ds hp
      have hdigits := inline_of_isDigit (h.power (negative, ds) hp).2
      refine inline_cons.2 ⟨by decide, inline_cons.2 ⟨?_, hdigits⟩⟩
      cases negative <;> decide
  rw [chars, inline_append, inline_append]
  exact ⟨inline_of_isDigit h.digits, hfraction, hpower⟩

theorem Number.inline_chars (n : Number) : Inline n.chars := by
  have hspelling := Spelling.inline_chars n.valid_spelling
  rw [chars_eq]
  split
  · exact inline_cons.2 ⟨by decide, hspelling⟩
  · exact hspelling

namespace Json

/-! ### Strings -/

theorem inline_hexDigit : ∀ n : Fin 16, 0x20 ≤ (hexDigit n).toNat := by decide

/-- **Whatever a character is**, what is written for it has no control character. -/
theorem inline_escape (c : Char) : Inline (escape c) := by
  rw [escape]
  split_ifs with _ _ _ _ _ _ _ hcontrol
  -- the two cases that are not written as a letter come first
  rotate_left 7
  · have hhigh := inline_hexDigit ⟨c.toNat / 16, by omega⟩
    have hlow := inline_hexDigit ⟨c.toNat % 16, Nat.mod_lt _ (by decide)⟩
    simp only [inline_cons, inline_nil, and_true]
    exact ⟨by decide, by decide, by decide, by decide, hhigh, hlow⟩
  · exact inline_cons.2 ⟨Nat.le_of_not_lt hcontrol, inline_nil⟩
  all_goals simp

theorem inline_literal (s : String) : Inline (literal s) := by
  have hescaped : Inline (s.toList.flatMap escape) := by
    intro c hc
    obtain ⟨d, -, hd⟩ := List.mem_flatMap.1 hc
    exact inline_escape d c hd
  rw [literal, inline_append, inline_cons]
  exact ⟨⟨by decide, hescaped⟩, inline_cons.2 ⟨by decide, inline_nil⟩⟩

/-! ### Trees -/

mutual

/-- **The plain text of a tree stays on one line**, whatever its keys and its strings hold. -/
theorem inline_chars : ∀ j : Json, Inline j.chars
  | null | bool true | bool false => by
    simp [chars]
  | num n => n.inline_chars
  | str s => inline_literal s
  | arr items => by
    rw [chars, inline_append, inline_cons]
    exact ⟨⟨by decide, inline_itemChars items⟩, inline_cons.2 ⟨by decide, inline_nil⟩⟩
  | obj members => by
    rw [chars, inline_append, inline_cons]
    exact ⟨⟨by decide, inline_memberChars members⟩, inline_cons.2 ⟨by decide, inline_nil⟩⟩

theorem inline_itemChars : ∀ js : List Json, Inline (itemChars js)
  | [] => inline_nil
  | [j] => inline_chars j
  | j :: j' :: js => by
    rw [itemChars, inline_append, inline_cons]
    · exact ⟨inline_chars j, by decide, inline_itemChars (j' :: js)⟩
    · exact List.cons_ne_nil _ _

theorem inline_memberChars : ∀ ms : List (String × Json), Inline (memberChars ms)
  | [] => inline_nil
  | [(k, j)] => by
    rw [memberChars, inline_append, inline_cons]
    exact ⟨inline_literal k, by decide, inline_chars j⟩
  | (k, j) :: m :: ms => by
    rw [memberChars, inline_append, inline_cons, inline_append, inline_cons]
    · exact ⟨inline_literal k, by decide, inline_chars j, by decide, inline_memberChars (m :: ms)⟩
    · exact List.cons_ne_nil _ _

end

end Json

/-! ## White space -/

namespace Lexeme

variable {c : Char} {rest : List Char}

theorem scan_blank (h : isBlank c = true) : scan (c :: rest) = scan rest := by
  have hword : ∀ d, isBlank d = false → c ≠ d := by
    rintro d hd rfl
    rw [h] at hd
    cases hd
  rw [scan, if_pos h]
  · exact fun _ heq => absurd heq (hword 't' rfl)
  · exact fun _ heq => absurd heq (hword 'f' rfl)
  · exact fun _ heq => absurd heq (hword 'n' rfl)

/-- White space at the start of a text is passed over. -/
theorem scan_append_blanks {cs : List Char} (h : ∀ c ∈ cs, isBlank c = true) :
    scan (cs ++ rest) = scan rest := by
  induction cs with
  | nil => rfl
  | cons c cs ih =>
    rw [List.forall_mem_cons] at h
    rw [List.cons_append, scan_blank h.1, ih h.2]

end Lexeme

/-- White space is no part of a number. -/
theorem endsNumber_of_isBlank {c : Char} (h : Lexeme.isBlank c = true) (cs : List Char) :
    EndsNumber (c :: cs) := by
  rintro d hd
  obtain rfl : c = d := Option.some.inj hd
  simp only [Lexeme.isBlank, Bool.or_eq_true, decide_eq_true_eq] at h
  rcases h with ((rfl | rfl) | rfl) | rfl
  all_goals decide

namespace Json

theorem scan_lineStart (depth : Nat) (rest : List Char) :
    Lexeme.scan (lineStart depth ++ rest) = Lexeme.scan rest := by
  apply Lexeme.scan_append_blanks
  intro c hc
  rcases List.mem_cons.1 hc with rfl | hc
  · rfl
  · rw [List.eq_of_mem_replicate hc]
    rfl

theorem endsNumber_lineStart (depth : Nat) (rest : List Char) :
    EndsNumber (lineStart depth ++ rest) :=
  endsNumber_of_isBlank rfl _

/-! ## Indented texts -/

mutual

/-- **The indented text of a tree is cut into its lexemes**, however deep it is inside of
    containers and whatever follows it. -/
theorem scan_prettyChars : ∀ (depth : Nat) (j : Json) {rest : List Char}, EndsNumber rest →
    Lexeme.scan (j.prettyChars depth ++ rest) = j.lexemes ++ Lexeme.scan rest
  | _, null, _, hrest | _, bool _, _, hrest | _, num _, _, hrest | _, str _, _, hrest
  | _, arr [], _, hrest | _, obj [], _, hrest => scan_chars _ hrest
  | depth, arr (j :: js), rest, _ => by
    have hitems := scan_prettyItems (depth + 1) (j :: js)
      (endsNumber_lineStart depth (']' :: rest))
    rw [scan_lineStart, Lexeme.scan_punctuation rfl] at hitems
    rw [prettyChars, lexemes, List.append_assoc, List.append_assoc, List.cons_append,
      List.singleton_append, Lexeme.scan_punctuation rfl, hitems, List.cons_append,
      List.append_assoc, List.singleton_append]
  | depth, obj (m :: ms), rest, _ => by
    have hmembers := scan_prettyMembers (depth + 1) (m :: ms)
      (endsNumber_lineStart depth ('\x7d' :: rest))
    rw [scan_lineStart, Lexeme.scan_punctuation rfl] at hmembers
    rw [prettyChars, lexemes, List.append_assoc, List.append_assoc, List.cons_append,
      List.singleton_append, Lexeme.scan_punctuation rfl, hmembers, List.cons_append,
      List.append_assoc, List.singleton_append]

theorem scan_prettyItems : ∀ (depth : Nat) (js : List Json) {rest : List Char}, EndsNumber rest →
    Lexeme.scan (prettyItems depth js ++ rest) = itemLexemes js ++ Lexeme.scan rest
  | _, [], _, _ => rfl
  | depth, [j], _, hrest => by
    rw [prettyItems, List.append_assoc, scan_lineStart, scan_prettyChars depth j hrest]
    rfl
  | depth, j :: j' :: js, rest, hrest => by
    have hcomma : Lexeme.punctuation? ',' = some .comma := rfl
    rw [prettyItems, itemLexemes, List.append_assoc, List.append_assoc, List.cons_append,
      scan_lineStart, scan_prettyChars depth j (endsNumber_of_punctuation? hcomma _),
      Lexeme.scan_punctuation hcomma, scan_prettyItems depth (j' :: js) hrest, List.append_assoc,
      List.cons_append]
    all_goals exact List.cons_ne_nil _ _

theorem scan_prettyMembers : ∀ (depth : Nat) (ms : List (String × Json)) {rest : List Char},
    EndsNumber rest →
      Lexeme.scan (prettyMembers depth ms ++ rest) = memberLexemes ms ++ Lexeme.scan rest
  | _, [], _, _ => rfl
  | depth, [(k, j)], _, hrest => by
    rw [prettyMembers, memberLexemes, List.append_assoc, List.append_assoc, List.cons_append,
      List.cons_append, scan_lineStart, scan_literal, Lexeme.scan_punctuation rfl,
      Lexeme.scan_blank rfl, scan_prettyChars depth j hrest]
    rfl
  | depth, (k, j) :: m :: ms, rest, hrest => by
    have hcomma : Lexeme.punctuation? ',' = some .comma := rfl
    rw [prettyMembers, memberLexemes, List.append_assoc, List.append_assoc, List.append_assoc,
      List.cons_append, List.cons_append, List.cons_append, scan_lineStart, scan_literal,
      Lexeme.scan_punctuation rfl, Lexeme.scan_blank rfl,
      scan_prettyChars depth j (endsNumber_of_punctuation? hcomma _),
      Lexeme.scan_punctuation hcomma, scan_prettyMembers depth (m :: ms) hrest, List.cons_append,
      List.cons_append, List.append_assoc, List.cons_append]
    all_goals exact List.cons_ne_nil _ _

end

/-- **An indented text has the draft of its tree**, also with a line feed behind it. -/
theorem ofText_pretty (j : Json) : Draft.ofText (j.pretty ++ "\n") = (j.draft, true) := by
  have hend : Lexeme.scan ['\n'] = [] := by
    rw [Lexeme.scan_blank rfl, Lexeme.scan]
  have hscan : Lexeme.scan (j.pretty ++ "\n").toList = j.lexemes := by
    have hpretty := scan_prettyChars 0 j (endsNumber_of_isBlank (c := '\n') rfl [])
    rw [hend, List.append_nil] at hpretty
    rw [String.toList_append, pretty, String.toList_ofList]
    exact hpretty
  exact ofText_of_scan hscan

end Json

end RowQuery
