/-
  RowQuery — what stands between quotes and in comments.

  The contents of an enclosed text do not matter, wherever it stands: a text before it that
  ends outside quotes and comments is scanned as if it stood alone, and at the end of the
  enclosure the scanner is in code again, whatever it has passed.

  * `Enclosure` is a kind of enclosed text with its opening and its closing, and
    `Enclosure.Admits` says what its contents may be: anything without the closing;
  * `flagged_enclosed`: the flags before an enclosed text and after it do not depend on its
    contents, and no character of it is part of a word or a mark;
  * `contents_indifferent`: words, classification and bound values stay when the contents are
    replaced, and so does the expanded text on both sides.
-/
import RowQuery.Proofs.Pointwise
import RowQuery.Proofs.Sql.Substitution
import RowQuery.Proofs.Sql.Words

namespace RowQuery

namespace Sql

/-! ## Enclosures -/

/-- A kind of enclosed text. -/
inductive Enclosure where
  /-- Between two quotes of one kind. -/
  | quotes (q : Char) (isQuote : isQuote q = true)
  /-- A block comment. -/
  | block
  /-- A line comment with the line feed that ends it. -/
  | line

namespace Enclosure

/-- What an enclosed text begins with. -/
def opening : Enclosure → String
  | quotes q _ => String.singleton q
  | block => "/*"
  | line => "--"

/-- What an enclosed text ends with. -/
def closing : Enclosure → String
  | quotes q _ => String.singleton q
  | block => "*/"
  | line => "\n"

/-- The enclosed text with these contents. -/
def enclose (k : Enclosure) (contents : String) : String := k.opening ++ contents ++ k.closing

/-- **Possible contents**: the closing does not occur in them. -/
def Admits (k : Enclosure) (contents : String) : Prop :=
  ¬ k.closing.toList <:+: contents.toList

instance (k : Enclosure) (contents : String) : Decidable (k.Admits contents) :=
  inferInstanceAs (Decidable (¬ _))

/-- Where the scanner stands in the contents. -/
def inside : Enclosure → Scan
  | quotes q _ => .quoted q
  | block => .block
  | line => .line

end Enclosure

/-- **Texts that end outside quotes and comments**: a blank after them is code. -/
def EndsInCode (text : String) : Prop :=
  (codeMask (text.toList ++ [' '])).getLast? = some true

/-! ## Flagged texts, part by part -/

namespace Scan

/-- The characters of a text before a continuation that begins with `look`, each with its
    flag. -/
def flagged (st : Scan) (cs : List Char) (look : Option Char) : List (Char × Bool) :=
  cs.zip (st.flags cs look)

variable (st : Scan) (a b cs : List Char) (c : Char) (look : Option Char)

theorem flagged_cons :
    st.flagged (c :: cs) look =
      (c, (st.step c (cs.head?.or look)).1) ::
        (st.step c (cs.head?.or look)).2.flagged cs look := rfl

theorem flagged_append :
    st.flagged (a ++ b) look =
      st.flagged a (b.head?.or look) ++ (st.after a (b.head?.or look)).flagged b look := by
  rw [flagged, flags_append, List.zip_append (length_flags st a _).symm]
  rfl

theorem map_fst_flagged : (st.flagged cs look).map Prod.fst = cs :=
  List.map_fst_zip (Nat.le_of_eq (length_flags st cs look).symm)

end Scan

theorem flagged_eq_scan (cs : List Char) : flagged cs = Scan.code.flagged cs none := by
  rw [flagged, codeMask_eq_flags]
  rfl

/-- **Inert characters** are neither marks nor parts of words. -/
def Inert (c : Char × Bool) : Prop := isMark c = false ∧ isWordChar (readChar c) = false

theorem inert_of_masked (c : Char) : Inert (c, false) := by
  have hblank : isWordChar ' ' = false := by decide
  exact ⟨rfl, hblank⟩

theorem inert_lineFeed : Inert ('\n', true) := ⟨by decide, by decide⟩

/-- **A text is passed** by a scanner if it is inert and leaves the scanner in a certain
    state. -/
structure Scan.Passes (st : Scan) (cs : List Char) (look : Option Char) (last : Scan) : Prop where
  inert : ∀ x ∈ st.flagged cs look, Inert x
  after : st.after cs look = last

namespace Scan.Passes

variable {st next last : Scan} {a b cs : List Char} {c : Char} {look : Option Char}

theorem nil (st : Scan) (look : Option Char) : st.Passes [] look st :=
  ⟨fun _ h => absurd h List.not_mem_nil, rfl⟩

theorem cons {code : Bool} (hstep : st.step c (cs.head?.or look) = (code, next))
    (hc : Inert (c, code)) (h : next.Passes cs look last) : st.Passes (c :: cs) look last := by
  constructor
  · rw [flagged_cons, hstep]
    exact List.forall_mem_cons.2 ⟨hc, h.inert⟩
  · rw [after_cons, hstep]
    exact h.after

theorem masked (hstep : st.step c (cs.head?.or look) = (false, next))
    (h : next.Passes cs look last) : st.Passes (c :: cs) look last :=
  .cons hstep (inert_of_masked c) h

theorem append (ha : st.Passes a (b.head?.or look) next) (hb : next.Passes b look last) :
    st.Passes (a ++ b) look last := by
  constructor
  · rw [flagged_append, ha.after]
    exact List.forall_mem_append.2 ⟨ha.inert, hb.inert⟩
  · rw [after_append, ha.after, hb.after]

end Scan.Passes

/-! ## The scanner in an enclosure -/

namespace Enclosure

variable {k : Enclosure}

/-- A character of the contents leaves the scanner inside. -/
theorem step_inside {c : Char} {cs : List Char} (h : ¬ k.closing.toList <:+: c :: cs)
    (look : Option Char) :
    k.inside.step c ((cs ++ k.closing.toList).head?.or look) = (false, k.inside) := by
  cases k with
  | quotes q hq =>
    have hne : c ≠ q := by
      rintro rfl
      exact h ⟨[], cs, by simp [closing]⟩
    simp [inside, Scan.step, hne]
  | line =>
    have hne : c ≠ '\n' := by
      rintro rfl
      exact h ⟨[], cs, by simp [closing]⟩
    simp [inside, Scan.step, hne]
  | block =>
    have hno : ¬ (c = '*' ∧ (cs ++ block.closing.toList).head?.or look = some '/') := by
      rintro ⟨rfl, hnext⟩
      cases cs with
      | nil =>
        -- a star at the end of the contents comes before the star of the closing
        simp [closing] at hnext
      | cons d cs =>
        obtain rfl : d = '/' := by simpa using hnext
        exact h ⟨[], cs, by simp [closing]⟩
    rw [inside, Scan.step, if_neg hno]

/-- The closing leads from inside to code. -/
theorem passes_closing (k : Enclosure) (look : Option Char) :
    k.inside.Passes k.closing.toList look .code := by
  cases k with
  | quotes q hq =>
    have hquote : (quotes q hq).closing.toList = [q] := by simp [closing]
    rw [hquote]
    exact .masked (by simp [inside, Scan.step]) (.nil _ _)
  | block =>
    change Scan.block.Passes ['*', '/'] look .code
    exact .masked rfl (.masked rfl (.nil _ _))
  | line =>
    change Scan.line.Passes ['\n'] look .code
    exact .cons rfl inert_lineFeed (.nil _ _)

theorem passes_contents {cs : List Char} (h : ¬ k.closing.toList <:+: cs) (look : Option Char) :
    k.inside.Passes (cs ++ k.closing.toList) look .code := by
  induction cs with
  | nil => exact k.passes_closing look
  | cons c cs ih =>
    have hrest : ¬ k.closing.toList <:+: cs := fun hin => h (List.infix_cons hin)
    exact .masked (step_inside h look) (ih hrest)

/-- **Where an enclosure is met**: in code, or in a line comment that the dash before it has
    opened with the first of its own. -/
def Meets (k : Enclosure) (st : Scan) : Prop := st = .code ∨ (k = line ∧ st = .line)

theorem passes_opening {st : Scan} (h : k.Meets st) (look : Option Char) :
    st.Passes k.opening.toList look k.inside := by
  rcases h with rfl | ⟨rfl, rfl⟩
  · cases k with
    | quotes q hq =>
      have hquote : (quotes q hq).opening.toList = [q] := by simp [opening]
      rw [hquote]
      exact .masked (by rw [Scan.step, if_pos hq]; rfl) (.nil _ _)
    | block => exact .masked rfl (.masked rfl (.nil _ _))
    | line => exact .masked rfl (.masked rfl (.nil _ _))
  · exact .masked rfl (.masked rfl (.nil _ _))

/-- **An enclosed text is passed**, and the scanner is in code after it. -/
theorem passes {st : Scan} (h : k.Meets st) {contents : String} (hc : k.Admits contents)
    (look : Option Char) : st.Passes (k.enclose contents).toList look .code := by
  have htext : (k.enclose contents).toList =
      k.opening.toList ++ (contents.toList ++ k.closing.toList) := by
    simp [enclose]
  rw [htext]
  exact (passes_opening h _).append (passes_contents hc look)

/-! ## Before an enclosure -/

theorem head?_enclose (k : Enclosure) (contents : String) :
    ∃ c, (k.enclose contents).toList.head? = some c ∧ c ≠ '*' ∧ (c = '-' → k = line) := by
  cases k with
  | quotes q hq =>
    have hne : ∀ d, isQuote d = false → q ≠ d := by
      rintro d hd rfl
      exact absurd hq (by simp [hd])
    exact ⟨q, by simp [enclose, opening], hne '*' rfl, fun h => absurd h (hne '-' rfl)⟩
  | block => exact ⟨'/', by simp [enclose, opening], by decide, fun h => absurd h (by decide)⟩
  | line => exact ⟨'-', by simp [enclose, opening], by decide, fun _ => rfl⟩

end Enclosure

/-- Flagged characters that are the same, or dashes. -/
def Alike (x y : Char × Bool) : Prop := x = y ∨ (x.1 = '-' ∧ y.1 = '-')

/-- Before anything but a star, a text that ends in code is scanned as it is alone, unless its
    last dash and a dash that follows open a comment. -/
theorem Scan.alike_of_ends {a : List Char} (look : Option Char) (hl : look ≠ some '*') :
    ∀ {st : Scan}, st.after a none = .code →
      List.Forall₂ Alike (st.flagged a look) (st.flagged a none) ∧
        (st.after a look = .code ∨ (look = some '-' ∧ st.after a look = .line)) := by
  induction a with
  | nil => exact fun h => ⟨.nil, Or.inl h⟩
  | cons c a ih =>
    intro st h
    rw [after_cons] at h
    rw [after_cons, flagged_cons, flagged_cons]
    cases a with
    | nil =>
      simp only [List.head?_nil, Option.none_or, after_nil] at h ⊢
      by_cases hdash : st = .code ∧ c = '-' ∧ look = some '-'
      · obtain ⟨rfl, rfl, rfl⟩ := hdash
        exact ⟨.cons (Or.inr ⟨rfl, rfl⟩) .nil, Or.inr ⟨rfl, rfl⟩⟩
      · have hs : st.step c look = st.step c none := by
          cases st with
          | code =>
            have hline : ¬ (c = '-' ∧ look = some '-') := fun hd => hdash ⟨rfl, hd⟩
            simp [step, hl, hline]
          | block => simp [step] at h
          | _ => rfl
        rw [hs]
        exact ⟨.cons (Or.inl rfl) .nil, Or.inl h⟩
    | cons d a =>
      obtain ⟨halike, hafter⟩ := ih h
      simp only [List.head?_cons, Option.some_or] at halike hafter ⊢
      exact ⟨.cons (Or.inl rfl) halike, hafter⟩

/-- A text ends in code if and only if the scanner is in code after it. -/
theorem endsInCode_iff {text : String} :
    EndsInCode text ↔ Scan.code.after text.toList none = .code := by
  rw [EndsInCode, codeMask_eq_flags, Scan.flags_append, Scan.flags_cons, Scan.flags_nil,
    List.getLast?_append, List.getLast?_singleton, Option.some_or, Option.some_inj, Option.or_none,
    List.head?_cons]
  constructor
  · intro h
    exact (Scan.after_of_follows (by simp [Follows]) (Scan.step_blank h)).1
  · intro h
    rcases (Scan.alike_of_ends (some ' ') (by simp) h).2 with hcode | ⟨hdash, -⟩
    · rw [hcode]
      rfl
    · cases hdash

instance (text : String) : Decidable (EndsInCode text) := decidable_of_iff _ endsInCode_iff.symm

theorem Alike.fst_eq {x y : Char × Bool} (h : Alike x y) : x.1 = y.1 := by
  rcases h with rfl | ⟨hx, hy⟩
  · rfl
  · rw [hx, hy]

theorem Alike.isMark_eq {x y : Char × Bool} (h : Alike x y) : isMark x = isMark y := by
  rcases h with rfl | ⟨hx, hy⟩
  · rfl
  · simp [isMark, hx, hy]

theorem isWordChar_readChar_dash {x : Char × Bool} (h : x.1 = '-') :
    isWordChar (readChar x) = false := by
  obtain ⟨c, code⟩ := x
  obtain rfl : c = '-' := h
  cases code <;> decide

section
variable {as bs : List (Char × Bool)}

/-- Texts that are alike have the same words. -/
theorem splitWords_of_alike (h : List.Forall₂ Alike as bs) (word : List Char) :
    splitWords word (as.map readChar) = splitWords word (bs.map readChar) := by
  induction h generalizing word with
  | nil => rfl
  | cons hxy _ ih =>
    rw [List.map_cons, List.map_cons, splitWords, splitWords, ih, ih]
    rcases hxy with rfl | ⟨hx, hy⟩
    · rfl
    · rw [isWordChar_readChar_dash hx, isWordChar_readChar_dash hy]
      rfl

/-- Texts that are alike are expanded alike. -/
theorem map_fst_spread_of_alike (h : List.Forall₂ Alike as bs) (values : List Scalar) :
    (spread as values).map Prod.fst = (spread bs values).map Prod.fst := by
  induction h generalizing values with
  | nil => rfl
  | @cons x y as bs hxy hrest ih =>
    cases values with
    | nil =>
      rw [spread_nil, spread_nil]
      exact map_eq_map_of_forall₂ (.cons hxy hrest) fun _ _ => Alike.fst_eq
    | cons value values =>
      rw [spread, spread, hxy.isMark_eq]
      split
      · rw [List.map_append, List.map_append, ih]
      · rw [List.map_cons, List.map_cons, ih, hxy.fst_eq]

end

/-! ## Around an enclosure -/

/-- The expansion of two texts: the second gets the values that the marks of the first leave. -/
theorem spread_append_drop (before rest : List (Char × Bool)) (values : List Scalar) :
    spread (before ++ rest) values =
      spread before values ++ spread rest (values.drop ((before.map isMark).count true)) := by
  induction before generalizing values with
  | nil => cases values <;> rfl
  | cons c before ih =>
    cases values with
    | nil => simp
    | cons value values =>
      rw [List.cons_append, spread, spread, List.map_cons]
      by_cases hc : isMark c = true
      · rw [if_pos hc, if_pos hc, hc, List.count_cons_self, List.drop_succ_cons, ih,
          List.append_assoc]
      · rw [if_neg hc, if_neg hc, Bool.eq_false_iff.2 hc, List.count_cons_of_ne (by simp), ih,
          List.cons_append]

variable {p : String} {k : Enclosure} {contents : String}

/-- **The flags around an enclosed text** are those that the text before it and the text after
    it have alone. -/
theorem flagged_enclosed (hp : EndsInCode p) (hc : k.Admits contents) (s : String) :
    ∃ before middle, flagged (p ++ k.enclose contents ++ s).toList =
        before ++ (middle ++ flagged s.toList) ∧
      List.Forall₂ Alike before (flagged p.toList) ∧
      middle.map Prod.fst = (k.enclose contents).toList ∧ ∀ x ∈ middle, Inert x := by
  obtain ⟨first, hfirst, hstar, hline⟩ := k.head?_enclose contents
  obtain ⟨halike, hafter⟩ :=
    Scan.alike_of_ends (some first) (fun h => hstar (Option.some.inj h)) (endsInCode_iff.1 hp)
  have hmeets : k.Meets (Scan.code.after p.toList (some first)) :=
    hafter.imp_right fun ⟨hdash, hin⟩ => ⟨hline (Option.some.inj hdash), hin⟩
  have hpasses := Enclosure.passes hmeets hc s.toList.head?
  have hhead : ((k.enclose contents).toList ++ s.toList).head? = some first := by
    rw [List.head?_append, hfirst, Option.some_or]
  refine ⟨Scan.code.flagged p.toList (some first), _, ?_, ?_, Scan.map_fst_flagged _ _ _,
    hpasses.inert⟩
  · rw [flagged_eq_scan, flagged_eq_scan, String.toList_append, String.toList_append,
      List.append_assoc, Scan.flagged_append, Scan.flagged_append, Option.or_none, hhead,
      Option.or_none, hpasses.after]
  · rw [flagged_eq_scan]
    exact halike

/-- **The words around an enclosed text** are those of the text before it and those of the text
    after it. -/
theorem words_enclosed (hp : EndsInCode p) (hc : k.Admits contents) (s : String) :
    words (p ++ k.enclose contents ++ s) = words p ++ words s := by
  obtain ⟨before, middle, hflags, halike, htext, hinert⟩ := flagged_enclosed hp hc s
  have hsep : ∀ c ∈ middle.map readChar, isWordChar c = false := by
    intro c hc
    obtain ⟨x, hx, rfl⟩ := List.mem_map.1 hc
    exact (hinert x hx).2
  have hne : middle.map readChar ≠ [] := by
    intro hnil
    obtain ⟨first, hfirst, -, -⟩ := k.head?_enclose contents
    rw [← htext, List.map_eq_nil_iff.1 hnil] at hfirst
    cases hfirst
  have hread : ∀ cs, codeText cs = (flagged cs).map readChar := fun _ => rfl
  rw [words, words, words, hread, hread, hread, hflags, List.map_append, List.map_append,
    splitWords_around hsep hne, splitWords_of_alike halike, List.map_append]

/-- **The text around an enclosed text is expanded** as it is alone: the text before it takes
    the values for its marks, and the text after it takes the next ones. -/
theorem expand_enclosed (hp : EndsInCode p) (hc : k.Admits contents) (s : String)
    (values : List Scalar) :
    (expand (p ++ k.enclose contents ++ s) values).1 =
      (expand p values).1 ++ k.enclose contents ++
        (expand s (values.drop (markCount p.toList))).1 := by
  obtain ⟨before, middle, hflags, halike, htext, hinert⟩ := flagged_enclosed hp hc s
  have hcount : (before.map isMark).count true = markCount p.toList := by
    rw [map_eq_map_of_forall₂ halike fun _ _ => Alike.isMark_eq]
    rfl
  apply String.toList_inj.1
  rw [String.toList_append, String.toList_append, toList_expand_fst, toList_expand_fst,
    toList_expand_fst, hflags, spread_append_drop, spread_append fun x hx => (hinert x hx).1,
    hcount, List.map_append, List.map_append, map_fst_spread_of_alike halike, htext,
    List.append_assoc]

theorem markCount_enclosed (hp : EndsInCode p) (hc : k.Admits contents) (s : String) :
    markCount (p ++ k.enclose contents ++ s).toList = markCount p.toList + markCount s.toList := by
  obtain ⟨before, middle, hflags, halike, -, hinert⟩ := flagged_enclosed hp hc s
  have hnone : (middle.map isMark).count true = 0 := by
    rw [List.count_eq_zero]
    intro hmark
    obtain ⟨x, hx, htrue⟩ := List.mem_map.1 hmark
    rw [(hinert x hx).1] at htrue
    cases htrue
  rw [markCount, marks, hflags, List.map_append, List.map_append, List.count_append,
    List.count_append, hnone, Nat.zero_add, map_eq_map_of_forall₂ halike fun _ _ => Alike.isMark_eq]
  rfl

/-- **What stands between quotes or in a comment does not matter.**  With other contents a
    statement has the same words and is taken for the same, and whatever the values are, the
    same are bound, and the expanded texts are the same before the enclosed text and after
    it. -/
theorem contents_indifferent {p : String} (hp : EndsInCode p) (k : Enclosure)
    {contents contents' : String} (hc : k.Admits contents) (hc' : k.Admits contents')
    (s : String) :
    let sql := p ++ k.enclose contents ++ s
    let sql' := p ++ k.enclose contents' ++ s
    words sql' = words sql ∧ returnsRows sql' = returnsRows sql ∧ isInsert sql' = isInsert sql ∧
      ∀ values, (expand sql' values).2 = (expand sql values).2 ∧
        ∃ before after, (expand sql values).1 = before ++ k.enclose contents ++ after ∧
          (expand sql' values).1 = before ++ k.enclose contents' ++ after := by
  intro sql sql'
  have hwords : words sql' = words sql :=
    (words_enclosed hp hc' s).trans (words_enclosed hp hc s).symm
  have hmarks : markCount sql'.toList = markCount sql.toList :=
    (markCount_enclosed hp hc' s).trans (markCount_enclosed hp hc s).symm
  refine ⟨hwords, by rw [returnsRows, returnsRows, hwords], by rw [isInsert, isInsert, hwords],
    fun values => ⟨?_, _, _, expand_enclosed hp hc s values, expand_enclosed hp hc' s values⟩⟩
  have hbound : ∀ text, (expand text values).2 =
      (values.take (markCount text.toList)).flatMap Scalar.flattened ++
        values.drop (markCount text.toList) := fun _ => expandFlagged_snd _ values
  rw [hbound, hbound, hmarks]

/-- A comment that begins with the last dash of the text before it, and that may hold the word
    RETURNING, a mark and the beginnings of other enclosures. -/
theorem contents_indifferent_after_dash :
    let p := "DELETE FROM t WHERE a = '--' AND b IN ? -"
    let s := "? AND c NOT IN ?"
    let sql := p ++ Enclosure.line.enclose "" ++ s
    let sql' := p ++ Enclosure.line.enclose "? RETURNING '/*" ++ s
    let values := [.list [.int 1, .int 2], .null, .list []]
    EndsInCode p ∧ Enclosure.line.Admits "" ∧ Enclosure.line.Admits "? RETURNING '/*" ∧
      returnsRows sql = false ∧ returnsRows sql' = false ∧
      expand sql values =
        ("DELETE FROM t WHERE a = '--' AND b IN (?, ?) ---\n? AND c NOT IN ()",
          [.int 1, .int 2, .null]) ∧
      (expand sql' values).2 = [.int 1, .int 2, .null] := by
  intro p s sql sql' values
  have hp : EndsInCode p := by decide +kernel
  have hc : Enclosure.line.Admits "" := by decide +kernel
  have hc' : Enclosure.line.Admits "? RETURNING '/*" := by decide +kernel
  obtain ⟨-, hreturns, -, hexpand⟩ := contents_indifferent hp .line hc hc' s
  have hplain : returnsRows sql = false := by decide +kernel
  have hspread : expand sql values =
      ("DELETE FROM t WHERE a = '--' AND b IN (?, ?) ---\n? AND c NOT IN ()",
        [.int 1, .int 2, .null]) := by
    decide +kernel
  have hbound := (hexpand values).1
  rw [hspread] at hbound
  exact ⟨hp, hc, hc', hplain, hreturns.trans hplain, hspread, hbound⟩

end Sql

end RowQuery
