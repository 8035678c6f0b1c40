/-
  RowQuery — texts of JSON trees, read back.

  A tree is written lexeme by lexeme, and lexemes are cut apart again where they were put
  together: a string ends with the first quote that is not escaped, and a number before the first
  character that is no part of one. From its lexemes the tree is built again.

  * `Json.lexemes`, `Json.draft`: the lexemes of a tree, and the draft that they build;
  * `Json.scan_chars`: the text of a tree is cut into its lexemes, whatever follows it;
  * `Json.build_lexemes`: the lexemes of a tree build its draft, whatever is open;
  * `Json.ReadsBack`: all numbers in a tree are the values of their texts;
  * `Json.ofTextWithin?_compact`: **such a tree is read back from its text**.
-/
import RowQuery.Json.Draft
import RowQuery.Json.Printer
import RowQuery.Proofs.Decimal.Reading
import RowQuery.Proofs.Json.Draft

namespace RowQuery

/-! ## Strings -/

section
variable {rest : List Char}

theorem hexUnit?_control : ∀ n : Fin 0x20,
    hexUnit? '0' '0' (Json.hexDigit (n.val / 16)) (Json.hexDigit (n.val % 16)) = some n.val := by
  decide

/-- A character is read from what is written for it. -/
theorem stringUnits?_escape (c : Char) {units : List Nat} {after : List Char}
    (h : stringUnits? rest = some (units, after)) :
    stringUnits? (Json.escape c ++ rest) = some (c.toNat :: units, after) := by
  have hletter : ∀ {c d : Char}, escaped? c = some d → c ≠ 'u' →
      stringUnits? ('\\' :: c :: rest) = some (d.toNat :: units, after) := by
    intro c d hc hne
    rw [stringUnits?, hc, h]
    · rfl
    · exact fun _ _ _ _ _ heq => absurd heq hne
  rw [Json.escape]
  split_ifs with hquote hback hb hf hn hr ht hcontrol
  -- the two cases that are not written as a letter come first
  rotate_left 7
  · change stringUnits? ('\\' :: 'u' :: '0' :: '0' :: _ :: _ :: rest) = _
    rw [stringUnits?, hexUnit?_control ⟨c.toNat, hcontrol⟩, h]
    rfl
  · change stringUnits? (c :: rest) = _
    rw [stringUnits?, if_neg (not_or.2 ⟨hback, hcontrol⟩), h]
    · rfl
    · exact hquote
    · exact fun _ _ _ _ _ heq => absurd heq hback
    · exact fun _ _ heq => absurd heq hback
  all_goals
    subst_vars
    exact hletter rfl (by decide)

theorem stringUnits?_flatMap (cs : List Char) :
    stringUnits? (cs.flatMap Json.escape ++ '\x22' :: rest) = some (cs.map Char.toNat, rest) := by
  induction cs with
  | nil => rfl
  | cons c cs ih =>
    rw [List.flatMap_cons, List.append_assoc, stringUnits?_escape c ih]
    rfl

/-- No character is half of a surrogate pair. -/
theorem charsOfUnits?_map (cs : List Char) : charsOfUnits? (cs.map Char.toNat) = some cs := by
  induction cs with
  | nil => rfl
  | cons c cs ih =>
    have hvalid : c.toNat < 0xD800 ∨ 0xDFFF < c.toNat ∧ c.toNat < 0x110000 := c.valid
    rw [List.map_cons, charsOfUnits?.eq_def]
    dsimp only
    rw [if_neg (by omega), if_neg (by omega), ih, Char.ofNat_toNat]
    rfl

theorem textOfUnits?_toNat (s : String) : textOfUnits? (s.toList.map Char.toNat) = some s := by
  rw [textOfUnits?, charsOfUnits?_map]
  exact congrArg some String.ofList_toList

end

/-! ## Lexemes -/

namespace Lexeme

variable {c : Char} {cs after : List Char}

theorem isBlank_of_punctuation? {l : Lexeme} (h : punctuation? c = some l) :
    isBlank c = false := by
  rw [punctuation?.eq_def] at h
  split at h
  all_goals first
    | rfl
    | cases h

theorem scan_punctuation {l : Lexeme} (h : punctuation? c = some l) :
    scan (c :: cs) = l :: scan cs := by
  have hword : ∀ d, punctuation? d = none → c ≠ d := by
    rintro d hd rfl
    rw [hd] at h
    cases h
  rw [scan, isBlank_of_punctuation? h, if_neg Bool.false_ne_true, h]
  · exact fun _ heq => absurd heq (hword 't' rfl)
  · exact fun _ heq => absurd heq (hword 'f' rfl)
  · exact fun _ heq => absurd heq (hword 'n' rfl)

theorem scan_string {units : List Nat} (h : stringUnits? cs = some (units, after)) :
    scan ('\x22' :: cs) = str (textOfUnits? units) :: scan after := by
  have hblank : isBlank '\x22' = false := rfl
  have hpunctuation : punctuation? '\x22' = none := rfl
  rw [scan, hblank, if_neg Bool.false_ne_true, hpunctuation]
  · dsimp only
    rw [if_pos rfl]
    split
    · rename_i heq
      rw [h] at heq
      cases heq
      rfl
    · rename_i heq
      rw [h] at heq
      cases heq
  · exact fun _ heq => absurd heq (by decide)
  · exact fun _ heq => absurd heq (by decide)
  · exact fun _ heq => absurd heq (by decide)

/-- What begins a number begins no other lexeme. -/
theorem begins_number (hc : c.isDigit = true ∨ c = '-') :
    isBlank c = false ∧ punctuation? c = none ∧ c ∉ ['\x22', 't', 'f', 'n'] := by
  rcases hc with hc | rfl
  · have hdigits : ∀ k : Fin 10, isBlank (Char.ofNat (48 + k)) = false ∧
        punctuation? (Char.ofNat (48 + k)) = none ∧
        Char.ofNat (48 + k) ∉ ['\x22', 't', 'f', 'n'] := by
      decide
    obtain ⟨hle, hlt⟩ : 48 ≤ c.toNat ∧ c.toNat ≤ 57 := by
      simpa [Char.isDigit, UInt32.le_iff_toNat_le] using hc
    have hchar : c = Char.ofNat (48 + (⟨c.toNat - 48, by omega⟩ : Fin 10)) := by
      change c = Char.ofNat (48 + (c.toNat - 48))
      rw [show 48 + (c.toNat - 48) = c.toNat by omega, Char.ofNat_toNat]
    rw [hchar]
    exact hdigits _
  · decide

theorem scan_number {l : Literal} (hc : c.isDigit = true ∨ c = '-')
    (h : literal? (c :: cs) = some (l, after)) : scan (c :: cs) = num l :: scan after := by
  obtain ⟨hblank, hpunctuation, hne⟩ := begins_number hc
  simp only [List.mem_cons, List.not_mem_nil, or_false, not_or] at hne
  obtain ⟨hquote, ht, hf, hn⟩ := hne
  rw [scan, hblank, if_neg Bool.false_ne_true, hpunctuation]
  · dsimp only
    rw [if_neg hquote]
    split
    · rename_i heq
      rw [h] at heq
      cases heq
      rfl
    · rename_i heq
      rw [h] at heq
      cases heq
  · exact fun _ heq => absurd heq ht
  · exact fun _ heq => absurd heq hf
  · exact fun _ heq => absurd heq hn

end Lexeme

/-- Punctuation is no part of a number. -/
theorem endsNumber_of_punctuation? {c : Char} {l : Lexeme} (h : Lexeme.punctuation? c = some l)
    (cs : List Char) : EndsNumber (c :: cs) := by
  rintro d hd
  obtain rfl : c = d := Option.some.inj hd
  rw [Lexeme.punctuation?.eq_def] at h
  split at h
  all_goals first
    | decide
    | cases h

namespace Json

mutual

/-- The lexemes of a tree. -/
def lexemes : Json → List Lexeme
  | null => [.null]
  | bool b => [.bool b]
  | num n => [.num n.literal]
  | str s => [.str (some s)]
  | arr items => .openArr :: (itemLexemes items ++ [.closeArr])
  | obj members => .openObj :: (memberLexemes members ++ [.closeObj])

/-- The lexemes of items. -/
def itemLexemes : List Json → List Lexeme
  | [] => []
  | [j] => lexemes j
  | j :: js => lexemes j ++ .comma :: itemLexemes js

/-- The lexemes of members. -/
def memberLexemes : List (String × Json) → List Lexeme
  | [] => []
  | [(k, j)] => .str (some k) :: .colon :: lexemes j
  | (k, j) :: ms => .str (some k) :: .colon :: (lexemes j ++ .comma :: memberLexemes ms)

end

theorem scan_literal (s : String) (rest : List Char) :
    Lexeme.scan (literal s ++ rest) = .str (some s) :: Lexeme.scan rest := by
  have hunits : stringUnits? (s.toList.flatMap escape ++ '\x22' :: rest) =
      some (s.toList.map Char.toNat, rest) := stringUnits?_flatMap s.toList
  rw [literal, List.cons_append, List.cons_append, List.append_assoc, List.singleton_append,
    Lexeme.scan_string hunits, textOfUnits?_toNat]

theorem scan_num (n : Number) {rest : List Char} (hrest : EndsNumber rest) :
    Lexeme.scan (n.chars ++ rest) = .num n.literal :: Lexeme.scan rest := by
  obtain ⟨c, cs, hchars, hc⟩ := n.exists_chars_eq
  have hread := n.literal?_chars hrest
  rw [hchars, List.cons_append] at hread ⊢
  exact Lexeme.scan_number hc hread

mutual

/-- **The text of a tree is cut into its lexemes**, whatever follows it. -/
theorem scan_chars : ∀ (j : Json) {rest : List Char}, EndsNumber rest →
    Lexeme.scan (j.chars ++ rest) = j.lexemes ++ Lexeme.scan rest
  | null, rest, _ => by
    rw [chars, lexemes]
    exact Lexeme.scan.eq_4 rest
  | bool true, rest, _ => by
    rw [chars, lexemes]
    exact Lexeme.scan.eq_2 rest
  | bool false, rest, _ => by
    rw [chars, lexemes]
    exact Lexeme.scan.eq_3 rest
  | num n, rest, hrest => scan_num n hrest
  | str s, rest, _ => scan_literal s rest
  | arr items, rest, _ => by
    have hclose : Lexeme.punctuation? ']' = some .closeArr := rfl
    rw [chars, lexemes, List.cons_append, List.cons_append, List.append_assoc,
      List.singleton_append, Lexeme.scan_punctuation rfl,
      scan_itemChars items (endsNumber_of_punctuation? hclose rest),
      Lexeme.scan_punctuation hclose, List.cons_append, List.append_assoc, List.singleton_append]
  | obj members, rest, _ => by
    have hclose : Lexeme.punctuation? '\x7d' = some .closeObj := rfl
    rw [chars, lexemes, List.cons_append, List.cons_append, List.append_assoc,
      List.singleton_append, Lexeme.scan_punctuation rfl,
      scan_memberChars members (endsNumber_of_punctuation? hclose rest),
      Lexeme.scan_punctuation hclose, List.cons_append, List.append_assoc, List.singleton_append]

theorem scan_itemChars : ∀ (js : List Json) {rest : List Char}, EndsNumber rest →
    Lexeme.scan (itemChars js ++ rest) = itemLexemes js ++ Lexeme.scan rest
  | [], _, _ => rfl
  | [j], _, hrest => scan_chars j hrest
  | j :: j' :: js, rest, hrest => by
    have hcomma : Lexeme.punctuation? ',' = some .comma := rfl
    rw [itemChars, itemLexemes, List.append_assoc, List.cons_append,
      scan_chars j (endsNumber_of_punctuation? hcomma _), Lexeme.scan_punctuation hcomma,
      scan_itemChars (j' :: js) hrest, List.append_assoc, List.cons_append]
    all_goals exact List.cons_ne_nil _ _

theorem scan_memberChars : ∀ (ms : List (String × Json)) {rest : List Char}, EndsNumber rest →
    Lexeme.scan (memberChars ms ++ rest) = memberLexemes ms ++ Lexeme.scan rest
  | [], _, _ => rfl
  | [(k, j)], rest, hrest => by
    rw [memberChars, memberLexemes, List.append_assoc, List.cons_append, scan_literal,
      Lexeme.scan_punctuation rfl, scan_chars j hrest]
    rfl
  | (k, j) :: m :: ms, rest, hrest => by
    have hcomma : Lexeme.punctuation? ',' = some .comma := rfl
    rw [memberChars, memberLexemes, List.append_assoc, List.cons_append, scan_literal,
      Lexeme.scan_punctuation rfl, List.append_assoc, List.cons_append,
      scan_chars j (endsNumber_of_punctuation? hcomma _), Lexeme.scan_punctuation hcomma,
      scan_memberChars (m :: ms) hrest, List.cons_append, List.cons_append, List.append_assoc,
      List.cons_append]
    all_goals exact List.cons_ne_nil _ _

end

/-! ## Drafts -/

mutual

/-- The draft of a tree. -/
def draft : Json → Draft
  | null => .null
  | bool b => .bool b
  | num n => .num n.literal
  | str s => .str (some s)
  | arr items => .arr (drafts items) true
  | obj members => .obj (memberDrafts members) true

/-- The drafts of items. -/
def drafts : List Json → List Draft
  | [] => []
  | j :: js => draft j :: drafts js

/-- The drafts of members. -/
def memberDrafts : List (String × Json) → List (Option String × Draft)
  | [] => []
  | (k, j) :: ms => (some k, draft j) :: memberDrafts ms

end

open Draft

/-- A tree does not begin with the end of an array. -/
theorem exists_lexemes_eq (j : Json) : ∃ l ls, j.lexemes = l :: ls ∧ l ≠ .closeArr := by
  cases j <;> exact ⟨_, _, rfl, by simp⟩

theorem exists_itemLexemes_eq (j : Json) (js : List Json) :
    ∃ l ls, itemLexemes (j :: js) = l :: ls ∧ l ≠ .closeArr := by
  obtain ⟨l, ls, hl, hne⟩ := j.exists_lexemes_eq
  cases js with
  | nil => exact ⟨l, ls, hl, hne⟩
  | cons j' js =>
    refine ⟨l, ls ++ .comma :: itemLexemes (j' :: js), ?_, hne⟩
    rw [itemLexemes, hl, List.cons_append]
    exact List.cons_ne_nil _ _

theorem build_of_step? {open_ open' : List Frame} {due due' : Due} {l : Lexeme} {ls : List Lexeme}
    (h : step? open_ due l = some (due', open')) :
    build open_ due (l :: ls) = build open' due' ls := by
  rw [build, h]

/-- What begins a value begins the first item of an array. -/
theorem build_firstItem {l : Lexeme} (hne : l ≠ .closeArr) (open_ : List Frame)
    (ls : List Lexeme) :
    build open_ .firstItem (l :: ls) = build (.arr [] :: open_) .value (l :: ls) := by
  have hstep : step? open_ .firstItem l = step? (.arr [] :: open_) .value l := by
    cases l <;> first | rfl | exact absurd rfl hne
  rw [build, build, hstep]
  rfl

mutual

/-- **The lexemes of a tree build its draft**, whatever is open. -/
theorem build_lexemes : ∀ (j : Json) (open_ : List Frame) (ls : List Lexeme),
    build open_ .value (j.lexemes ++ ls) = build open_ (.after j.draft) ls
  | null, _, _ | bool _, _, _ | num _, _, _ | str _, _, _ => by
    rw [lexemes, draft]
    exact build_of_step? rfl
  | arr [], open_, ls => by
    rw [lexemes, draft, List.cons_append, build_of_step? rfl]
    exact build_of_step? rfl
  | arr (j :: js), open_, ls => by
    obtain ⟨l, tail, hl, hne⟩ := exists_itemLexemes_eq j js
    have hitems := build_itemLexemes (j :: js) (List.cons_ne_nil _ _) [] open_ ls
    rw [hl, List.cons_append] at hitems
    rw [lexemes, draft, List.cons_append, List.append_assoc, List.singleton_append,
      build_of_step? rfl, hl, List.cons_append, build_firstItem hne]
    exact hitems
  | obj [], open_, ls => by
    rw [lexemes, draft, List.cons_append, build_of_step? rfl]
    exact build_of_step? rfl
  | obj ((k, j) :: ms), open_, ls => by
    rw [lexemes, draft, List.cons_append, List.append_assoc, List.singleton_append,
      build_of_step? rfl]
    exact build_memberLexemes ((k, j) :: ms) (List.cons_ne_nil _ _) [] true open_ ls

theorem build_itemLexemes : ∀ (js : List Json), js ≠ [] → ∀ (done : List Draft)
    (open_ : List Frame) (ls : List Lexeme),
    build (.arr done :: open_) .value (itemLexemes js ++ .closeArr :: ls) =
      build open_ (.after (.arr (done.reverse ++ drafts js) true)) ls
  | [], h, _, _, _ => absurd rfl h
  | [j], _, done, open_, ls => by
    rw [itemLexemes, build_lexemes j, build_of_step? rfl, Frame.close, List.reverse_cons]
    rfl
  | j :: j' :: js, _, done, open_, ls => by
    rw [itemLexemes, List.append_assoc, List.cons_append, build_lexemes j, build_of_step? rfl,
      build_itemLexemes (j' :: js) (List.cons_ne_nil _ _), List.reverse_cons, List.append_assoc,
      List.singleton_append]
    · rfl
    · exact List.cons_ne_nil _ _

theorem build_memberLexemes : ∀ (ms : List (String × Json)), ms ≠ [] →
    ∀ (done : List (Option String × Draft)) (orEnd : Bool) (open_ : List Frame) (ls : List Lexeme),
    build open_ (.key done orEnd) (memberLexemes ms ++ .closeObj :: ls) =
      build open_ (.after (.obj (done.reverse ++ memberDrafts ms) true)) ls
  | [], h, _, _, _, _ => absurd rfl h
  | [(k, j)], _, done, orEnd, open_, ls => by
    have hkey : step? open_ (.key done orEnd) (.str (some k)) =
        some (.colon done (some k), open_) := by
      cases orEnd <;> rfl
    rw [memberLexemes, List.cons_append, List.cons_append, build_of_step? hkey,
      build_of_step? rfl, build_lexemes j, build_of_step? rfl, Frame.close, List.reverse_cons]
    rfl
  | (k, j) :: m :: ms, _, done, orEnd, open_, ls => by
    have hkey : step? open_ (.key done orEnd) (.str (some k)) =
        some (.colon done (some k), open_) := by
      cases orEnd <;> rfl
    rw [memberLexemes, List.cons_append, List.cons_append, List.append_assoc, List.cons_append,
      build_of_step? hkey, build_of_step? rfl, build_lexemes j, build_of_step? rfl,
      build_memberLexemes (m :: ms) (List.cons_ne_nil _ _), List.reverse_cons, List.append_assoc,
      List.singleton_append]
    · rfl
    · exact List.cons_ne_nil _ _

end

/-! ## Trees -/

mutual

/-- How many containers are inside one another in a tree. -/
def nesting : Json → Nat
  | arr items => itemNesting items + 1
  | obj members => memberNesting members + 1
  | _ => 0

/-- How many containers are inside one another in items. -/
def itemNesting : List Json → Nat
  | [] => 0
  | j :: js => max j.nesting (itemNesting js)

/-- How many containers are inside one another in members. -/
def memberNesting : List (String × Json) → Nat
  | [] => 0
  | (_, j) :: ms => max j.nesting (memberNesting ms)

end

mutual

/-- No object in a tree has a key twice. -/
def DistinctKeys : Json → Prop
  | arr items => ItemsDistinctKeys items
  | obj members => (members.map Prod.fst).Nodup ∧ MembersDistinctKeys members
  | _ => True

/-- No object in items has a key twice. -/
def ItemsDistinctKeys : List Json → Prop
  | [] => True
  | j :: js => j.DistinctKeys ∧ ItemsDistinctKeys js

/-- No object in the values of members has a key twice. -/
def MembersDistinctKeys : List (String × Json) → Prop
  | [] => True
  | (_, j) :: ms => j.DistinctKeys ∧ MembersDistinctKeys ms

end

mutual

/-- All numbers in a tree are the values of their texts. -/
def ReadsBack : Json → Prop
  | num n => n.ReadsBack
  | arr items => ItemsReadBack items
  | obj members => MembersReadBack members
  | _ => True

/-- All numbers in items are the values of their texts. -/
def ItemsReadBack : List Json → Prop
  | [] => True
  | j :: js => j.ReadsBack ∧ ItemsReadBack js

/-- All numbers in the values of members are the values of their texts. -/
def MembersReadBack : List (String × Json) → Prop
  | [] => True
  | (_, j) :: ms => j.ReadsBack ∧ MembersReadBack ms

end

mutual

/-- **The draft of a tree is the draft of that tree**, if its numbers are the values of their
    texts and it is not nested too deep. -/
theorem tree?_draft : ∀ {j : Json} {depth : Nat}, j.DistinctKeys → j.ReadsBack →
    j.nesting ≤ depth → j.draft.tree? depth = some j
  | null, _, _, _, _ | bool _, _, _, _, _ | str _, _, _, _, _ => rfl
  | num n, _, _, hreads, _ => by
    have hn : Number.ofLiteral? n.literal = some n := hreads
    rw [draft, Draft.tree?, hn]
    rfl
  | arr items, 0, _, _, hdepth => absurd hdepth (Nat.not_succ_le_zero _)
  | arr items, depth + 1, hkeys, hreads, hdepth => by
    rw [draft, Draft.tree?, itemTrees?_drafts hkeys hreads (Nat.le_of_succ_le_succ hdepth)]
    rfl
  | obj members, 0, _, _, hdepth => absurd hdepth (Nat.not_succ_le_zero _)
  | obj members, depth + 1, hkeys, hreads, hdepth => by
    have hmembers := memberTrees?_memberDrafts hkeys.2 hreads (Nat.le_of_succ_le_succ hdepth)
    rw [draft, Draft.tree?, hmembers]
    exact congrArg (fun ms => some (obj ms)) (mergeEntries_of_nodup hkeys.1)

theorem itemTrees?_drafts : ∀ {js : List Json} {depth : Nat}, ItemsDistinctKeys js →
    ItemsReadBack js → itemNesting js ≤ depth → itemTrees? depth (drafts js) = some js
  | [], _, _, _, _ => rfl
  | j :: js, depth, hkeys, hreads, hdepth => by
    rw [itemNesting, Nat.max_le] at hdepth
    exact itemTrees?_cons_eq_some.2 ⟨j, js, tree?_draft hkeys.1 hreads.1 hdepth.1,
      itemTrees?_drafts hkeys.2 hreads.2 hdepth.2, rfl⟩

theorem memberTrees?_memberDrafts : ∀ {ms : List (String × Json)} {depth : Nat},
    MembersDistinctKeys ms → MembersReadBack ms → memberNesting ms ≤ depth →
      memberTrees? depth (memberDrafts ms) = some ms
  | [], _, _, _, _ => rfl
  | (k, j) :: ms, depth, hkeys, hreads, hdepth => by
    rw [memberNesting, Nat.max_le] at hdepth
    exact memberTrees?_cons_eq_some.2 ⟨k, j, ms, rfl, tree?_draft hkeys.1 hreads.1 hdepth.1,
      memberTrees?_memberDrafts hkeys.2 hreads.2 hdepth.2, rfl⟩

end

/-- A text that is cut into the lexemes of a tree has its draft. -/
theorem ofText_of_scan {j : Json} {text : String} (h : Lexeme.scan text.toList = j.lexemes) :
    Draft.ofText text = (j.draft, true) := by
  have hbuild := j.build_lexemes [] []
  rw [List.append_nil] at hbuild
  rw [Draft.ofText, Draft.ofLexemes, h, hbuild]
  rfl

/-- The text of a tree ends with it, and has its draft. -/
theorem ofText_compact (j : Json) : Draft.ofText j.compact = (j.draft, true) := by
  have hend : EndsNumber [] := nofun
  have hscan := j.scan_chars hend
  rw [Lexeme.scan.eq_1, List.append_nil, List.append_nil] at hscan
  refine ofText_of_scan ?_
  rw [compact, String.toList_ofList, hscan]

end Json

end RowQuery
