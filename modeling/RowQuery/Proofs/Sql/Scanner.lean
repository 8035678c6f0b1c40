/-
  RowQuery — the mask of a statement, character by character.

  `Scan` is the state of a scanner that reads a text from left to right and looks one
  character ahead. A text is scanned before a continuation of which only the first
  character counts, so that the flags of a text are those of its parts.

  * `Scan.flags` and `Scan.after` are the flags of a text and the state after it;
  * `flags_append`, `after_append`: a text is scanned part by part;
  * `after_of_not_opensComment`: what follows a text that ends in code does not matter, unless
    it opens a comment with the end of the text;
  * `codeMask_eq_flags`: the mask is that of the scanner, begun in code.
-/
import RowQuery.Sql.Code

namespace RowQuery

namespace Sql

/-- Where a scanner stands in a text. -/
inductive Scan where
  | code
  /-- In text between quotes. -/
  | quoted (q : Char)
  | line
  /-- At the `*` of the opening of a block comment. -/
  | opening
  | block
  /-- At the `/` of the end of a block comment. -/
  | closing
deriving DecidableEq, Repr

/-- A text that is never two characters and a rest does not begin with the two. -/
theorem not_begins {c d e : Char} {cs : List Char} (h : ∀ rest, c = d → cs = e :: rest → False) :
    ¬ (c = d ∧ cs.head? = some e) := by
  rintro ⟨hc, hhead⟩
  obtain ⟨rest, hcs⟩ := List.head?_eq_some_iff.1 hhead
  exact h rest hc hcs

/-- What is left after an opaque stretch, told by the first two characters. -/
theorem afterOpaque?_cons (c : Char) (cs : List Char) :
    afterOpaque? (c :: cs) =
      if isQuote c then some (afterQuote c cs)
      else if c = '-' ∧ cs.head? = some '-' then some (fromLineFeed (c :: cs))
      else if c = '/' ∧ cs.head? = some '*' then some (afterBlock cs.tail)
      else none := by
  unfold afterOpaque?
  split
  · rename_i rest heq
    obtain ⟨rfl, rfl⟩ := List.cons.inj heq
    simp [isQuote, fromLineFeed]
  · rename_i rest heq
    obtain ⟨rfl, rfl⟩ := List.cons.inj heq
    simp [isQuote]
  · rename_i d rest hline hblock heq
    obtain ⟨rfl, rfl⟩ := List.cons.inj heq
    have hl := not_begins hline
    have hb := not_begins hblock
    simp [hl, hb]
  · rename_i heq
    cases heq

/-- **What opens a comment** where two texts meet: the last character of the one with the
    first of the other. -/
def OpensComment (last first : Option Char) : Prop :=
  (last = some '-' ∧ first = some '-') ∨ (last = some '/' ∧ first = some '*')

instance (last first : Option Char) : Decidable (OpensComment last first) :=
  inferInstanceAs (Decidable (_ ∨ _))

namespace Scan

/-- Whether a character is code, and the state after it, where `look` comes next. -/
def step (st : Scan) (c : Char) (look : Option Char) : Bool × Scan :=
  match st with
  | code =>
    if isQuote c then (false, quoted c)
    else if c = '-' ∧ look = some '-' then (false, line)
    else if c = '/' ∧ look = some '*' then (false, opening)
    else (true, code)
  | quoted q => (false, if c = q then code else quoted q)
  | line => if c = '\n' then (true, code) else (false, line)
  | opening => (false, block)
  | block => (false, if c = '*' ∧ look = some '/' then closing else block)
  | closing => (false, code)

/-- The flags of a text before a continuation that begins with `look`. -/
def flags (st : Scan) : List Char → Option Char → List Bool
  | [], _ => []
  | c :: cs, look =>
    let r := st.step c (cs.head?.or look)
    r.1 :: r.2.flags cs look

/-- The state after a text before a continuation that begins with `look`. -/
def after (st : Scan) : List Char → Option Char → Scan
  | [], _ => st
  | c :: cs, look => (st.step c (cs.head?.or look)).2.after cs look

@[simp] theorem flags_nil (st : Scan) (look : Option Char) : st.flags [] look = [] := rfl

@[simp] theorem after_nil (st : Scan) (look : Option Char) : st.after [] look = st := rfl

theorem flags_cons (st : Scan) (c : Char) (cs : List Char) (look : Option Char) :
    st.flags (c :: cs) look =
      (st.step c (cs.head?.or look)).1 :: (st.step c (cs.head?.or look)).2.flags cs look := rfl

theorem after_cons (st : Scan) (c : Char) (cs : List Char) (look : Option Char) :
    st.after (c :: cs) look = (st.step c (cs.head?.or look)).2.after cs look := rfl

theorem length_flags (st : Scan) (cs : List Char) (look : Option Char) :
    (st.flags cs look).length = cs.length := by
  induction cs generalizing st with
  | nil => rfl
  | cons c cs ih => rw [flags_cons, List.length_cons, ih, List.length_cons]

/-! ## Part by part -/

theorem head?_append_or (a b : List Char) (look : Option Char) :
    (a ++ b).head?.or look = a.head?.or (b.head?.or look) := by
  rw [List.head?_append, Option.or_assoc]

/-- **A text is scanned part by part.** -/
theorem flags_append (st : Scan) (a b : List Char) (look : Option Char) :
    st.flags (a ++ b) look =
      st.flags a (b.head?.or look) ++ (st.after a (b.head?.or look)).flags b look := by
  induction a generalizing st with
  | nil => rfl
  | cons c a ih =>
    rw [List.cons_append, flags_cons, flags_cons, after_cons, head?_append_or, ih,
      List.cons_append]

theorem after_append (st : Scan) (a b : List Char) (look : Option Char) :
    st.after (a ++ b) look = (st.after a (b.head?.or look)).after b look := by
  induction a generalizing st with
  | nil => rfl
  | cons c a ih => rw [List.cons_append, after_cons, after_cons, head?_append_or, ih]

/-- A scanner that is in code after a text before one continuation does the same before any
    other that opens no comment with the end of the text. -/
theorem after_of_not_opensComment {look other : Option Char} :
    ∀ {a : List Char} {st : Scan}, st.after a look = .code →
      ¬ OpensComment a.getLast? other →
        st.after a other = .code ∧ st.flags a other = st.flags a look
  | [], _, h, _ => ⟨h, rfl⟩
  | [c], st, h, ho => by
    -- only the last character sees what follows, and only a dash or a slash minds it
    have hline : ¬ (c = '-' ∧ other = some '-') := fun hd => ho (.inl ⟨by simp [hd.1], hd.2⟩)
    have hblock : ¬ (c = '/' ∧ other = some '*') := fun hs => ho (.inr ⟨by simp [hs.1], hs.2⟩)
    have hstep : st.step c other = st.step c look := by
      simp only [after_cons, List.head?_nil, Option.none_or, after_nil] at h
      cases st with
      | code =>
        simp only [step] at h ⊢
        grind
      | block =>
        simp only [step] at h
        grind
      | _ => rfl
    simp only [after_cons, flags_cons, List.head?_nil, Option.none_or, after_nil, flags_nil,
      hstep] at h ⊢
    exact ⟨h, trivial⟩
  | c :: d :: a, st, h, ho => by
    rw [after_cons] at h
    rw [List.getLast?_cons_cons] at ho
    obtain ⟨hafter, hflags⟩ := after_of_not_opensComment h ho
    rw [after_cons, flags_cons st c (d :: a) other, flags_cons st c (d :: a) look]
    simp only [List.head?_cons, Option.some_or] at hafter hflags ⊢
    exact ⟨hafter, by rw [hflags]⟩

/-! ## The stretches of opaque text -/

/-- What is between quotes is opaque up to the next quote. -/
theorem flags_quoted (q : Char) (cs : List Char) :
    (quoted q).flags cs none =
      List.replicate (cs.length - (afterQuote q cs).length) false ++
        code.flags (afterQuote q cs) none := by
  induction cs with
  | nil => rfl
  | cons c cs ih =>
    rw [flags_cons]
    by_cases h : c = q
    · subst h
      have hq : afterQuote c (c :: cs) = cs := by simp [afterQuote]
      have hlen : (c :: cs).length - cs.length = 1 := by simp
      rw [hq, hlen]
      simp [step]
    · have hq : afterQuote q (c :: cs) = afterQuote q cs := by simp [afterQuote, h]
      have hle := afterQuote_length q cs
      simp only [step, h, if_false, ih, hq, List.length_cons, Nat.succ_sub hle,
        List.replicate_succ, List.cons_append]

/-- A line comment is opaque up to the next line feed. -/
theorem flags_line (cs : List Char) :
    line.flags cs none =
      List.replicate (cs.length - (fromLineFeed cs).length) false ++
        code.flags (fromLineFeed cs) none := by
  induction cs with
  | nil => rfl
  | cons c cs ih =>
    rw [flags_cons]
    by_cases h : c = '\n'
    · have hl : fromLineFeed (c :: cs) = c :: cs := by simp [fromLineFeed, h]
      rw [hl, flags_cons]
      simp [step, h, isQuote]
    · have hl : fromLineFeed (c :: cs) = fromLineFeed cs := by simp [fromLineFeed, h]
      have hle := fromLineFeed_length cs
      simp only [step, h, if_false, ih, hl, List.length_cons, Nat.succ_sub hle,
        List.replicate_succ, List.cons_append]

/-- A block comment is opaque up to its end. -/
theorem flags_block (cs : List Char) :
    block.flags cs none =
      List.replicate (cs.length - (afterBlock cs).length) false ++
        code.flags (afterBlock cs) none := by
  fun_induction afterBlock cs with
  | case1 => rfl
  | case2 cs =>
    have h : cs.length + 1 + 1 - cs.length = 2 := by omega
    simp [flags_cons, step, h, List.replicate]
  | case3 c cs hc ih =>
    have hle := afterBlock_length cs
    have hno := not_begins hc
    simp only [flags_cons, Option.or_none, step, hno, if_false, ih, List.length_cons,
      Nat.succ_sub hle, List.replicate_succ, List.cons_append]

/-- A text that begins with an opaque stretch is opaque up to what follows it. -/
theorem flags_opaque {cs rest : List Char} (h : afterOpaque? cs = some rest) :
    code.flags cs none =
      List.replicate (cs.length - rest.length) false ++ code.flags rest none := by
  unfold afterOpaque? at h
  split at h
  · rename_i cs
    obtain rfl := Option.some.inj h
    have hle := fromLineFeed_length cs
    have hlen : (('-' :: '-' :: cs).length - (fromLineFeed cs).length) =
        cs.length - (fromLineFeed cs).length + 1 + 1 := by
      simp only [List.length_cons]; omega
    rw [flags_cons, flags_cons, hlen]
    simp [step, isQuote, flags_line, List.replicate_succ]
  · rename_i cs
    obtain rfl := Option.some.inj h
    have hle := afterBlock_length cs
    have hlen : (('/' :: '*' :: cs).length - (afterBlock cs).length) =
        cs.length - (afterBlock cs).length + 1 + 1 := by
      simp only [List.length_cons]; omega
    rw [flags_cons, flags_cons, hlen]
    simp [step, isQuote, flags_block, List.replicate_succ]
  · rename_i c cs _ _
    split at h
    · rename_i hq
      obtain rfl := Option.some.inj h
      have hle := afterQuote_length c cs
      have hlen : ((c :: cs).length - (afterQuote c cs).length) =
          cs.length - (afterQuote c cs).length + 1 := by
        simp only [List.length_cons]; omega
      rw [flags_cons, hlen]
      simp [step, hq, flags_quoted, List.replicate_succ]
    · simp at h
  · simp at h

/-- A character that begins no opaque stretch is code. -/
theorem step_code {c : Char} {cs : List Char} (h : afterOpaque? (c :: cs) = none) :
    code.step c (cs.head?.or none) = (true, code) := by
  rw [Option.or_none, step]
  rw [afterOpaque?_cons] at h
  split at h
  · cases h
  split at h
  · cases h
  split at h
  · cases h
  · rename_i hq hl hb
    rw [if_neg hq, if_neg hl, if_neg hb]

end Scan

/-- **The mask of a text is that of the scanner, begun in code.** -/
theorem codeMask_eq_flags (cs : List Char) : codeMask cs = Scan.code.flags cs none := by
  fun_induction codeMask cs with
  | case1 => rfl
  | case2 c cs rest h ih => rw [ih, Scan.flags_opaque h]
  | case3 c cs h ih => rw [Scan.flags_cons, Scan.step_code h, ih]

end Sql

end RowQuery
