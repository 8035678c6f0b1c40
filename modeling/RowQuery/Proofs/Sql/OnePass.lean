/-
  RowQuery — the mask of a statement, in one pass.

  Quotes and comments are told apart by a scanner that reads a statement once from left to
  right and looks at most one character ahead. It is in code, in text between quotes, in a
  line comment or in a block comment, and passes what opens or closes a block comment as a
  whole, so that `/*/` is only an opening.

  * `Region.read` is the scanner, with the flags it gives and where it ends;
  * `finds_read`: it finds what the scanner finds that passes every character on its own;
  * `mask_in_one_pass`: its flags are the mask, which reading by positions gives too, and the
    mask of two texts, the first of which ends in code, is that of the one and the other.
-/
import RowQuery.Proofs.Sql.Positions

namespace RowQuery

namespace Sql

/-- Where a scanner stands that passes the marks of a block comment as a whole. -/
inductive Region where
  | code
  /-- In text between quotes. -/
  | quoted (q : Char)
  | line
  | block
deriving DecidableEq, Repr

namespace Region

/-- What is read when so many characters, all of them code or none, come before the rest. -/
def passed (n : Nat) (code : Bool) (rest : List Bool × Region) : List Bool × Region :=
  (List.replicate n code ++ rest.1, rest.2)

/-- The flags of a text that is read in a region, and the region after it. -/
def read : Region → List Char → List Bool × Region
  | r, [] => ([], r)
  | code, '-' :: '-' :: cs => passed 2 false (line.read cs)
  | code, '/' :: '*' :: cs => passed 2 false (block.read cs)
  | code, c :: cs =>
    if isQuote c then passed 1 false ((quoted c).read cs) else passed 1 true (code.read cs)
  | quoted q, c :: cs =>
    if c = q then passed 1 false (code.read cs) else passed 1 false ((quoted q).read cs)
  | line, c :: cs =>
    if c = '\n' then passed 1 true (code.read cs) else passed 1 false (line.read cs)
  | block, '*' :: '/' :: cs => passed 2 false (code.read cs)
  | block, _ :: cs => passed 1 false (block.read cs)

/-- The same place for the scanner that passes every character on its own. -/
def toScan : Region → Scan
  | code => .code
  | quoted q => .quoted q
  | line => .line
  | block => .block

theorem toScan_eq_code {r : Region} : r.toScan = .code ↔ r = code := by
  cases r <;> simp [toScan]

/-- **What is read is what a scanner finds** that passes every character on its own. -/
structure Finds (st : Scan) (cs : List Char) (result : List Bool × Region) : Prop where
  flags : result.1 = st.flags cs none
  after : result.2.toScan = st.after cs none

namespace Finds

variable {st middle next : Scan} {c d : Char} {cs : List Char} {result : List Bool × Region}

theorem cons {code : Bool} (hstep : st.step c cs.head? = (code, next))
    (h : Finds next cs result) : Finds st (c :: cs) (passed 1 code result) := by
  constructor
  · rw [Scan.flags_cons, Option.or_none, hstep, ← h.flags]
    rfl
  · rw [Scan.after_cons, Option.or_none, hstep, ← h.after]
    rfl

theorem cons_cons {code : Bool} (hfirst : st.step c (some d) = (code, middle))
    (hsecond : middle.step d cs.head? = (code, next)) (h : Finds next cs result) :
    Finds st (c :: d :: cs) (passed 2 code result) :=
  Finds.cons hfirst (Finds.cons hsecond h)

end Finds

/-- **The scanner finds what the one finds that passes every character on its own.** -/
theorem finds_read (r : Region) (cs : List Char) : Finds r.toScan cs (r.read cs) := by
  fun_induction read r cs with
  | case1 r => exact ⟨rfl, rfl⟩
  | case2 cs ih => exact .cons_cons rfl rfl ih
  | case3 cs ih => exact .cons_cons rfl rfl ih
  | case4 c cs hline hblock hq ih =>
    refine .cons ?_ ih
    simp [toScan, Scan.step, hq]
  | case5 c cs hline hblock hq ih =>
    refine .cons ?_ ih
    have hl := not_begins hline
    have hb := not_begins hblock
    rw [toScan, Scan.step, if_neg hq, if_neg hl, if_neg hb]
  | case6 q cs ih =>
    refine .cons ?_ ih
    simp [toScan, Scan.step]
  | case7 q c cs h ih =>
    refine .cons ?_ ih
    simp [toScan, Scan.step, h]
  | case8 cs ih => exact .cons rfl ih
  | case9 c cs h ih =>
    refine .cons ?_ ih
    simp [toScan, Scan.step, h]
  | case10 cs ih => exact .cons_cons rfl rfl ih
  | case11 c cs h ih =>
    refine .cons ?_ ih
    rw [toScan, Scan.step, if_neg (not_begins h)]

end Region

theorem codeMask_eq_read (cs : List Char) : codeMask cs = (Region.code.read cs).1 := by
  rw [codeMask_eq_flags, (Region.code.finds_read cs).flags]
  rfl

-- the star of an opening closes nothing
example : codeMask "/*/?*/?".toList = [false, false, false, false, false, false, true] := by
  rw [codeMask_eq_read]
  rfl

/-- **The mask of two texts**, of which the first ends in code and opens no comment with the
    second, is that of the one and the other. -/
theorem codeMask_append {a b : List Char} (h : (Region.code.read a).2 = .code)
    (ho : ¬ OpensComment a.getLast? b.head?) : codeMask (a ++ b) = codeMask a ++ codeMask b := by
  have halone : Scan.code.after a none = .code :=
    (Region.code.finds_read a).after.symm.trans (Region.toScan_eq_code.2 h)
  obtain ⟨hafter, hflags⟩ := Scan.after_of_not_opensComment halone ho
  rw [codeMask_eq_flags, codeMask_eq_flags, codeMask_eq_flags, Scan.flags_append, Option.or_none,
    hafter, hflags]

/-- **The mask in one pass**: a text has a flag for each of its characters, those of the
    scanner that reads it once; reading it by positions gives them too, asks for nothing that
    is not there and always gets on; and two texts have the flags of the one and the other if
    the first ends in code and they open no comment where they meet. -/
theorem mask_in_one_pass (cs : List Char) :
    (codeMask cs).length = cs.length ∧
      codeMask cs = (Region.code.read cs).1 ∧
      sweep? cs = some (codeMask cs) ∧
      (∀ i < cs.length, ∃ code j, next? cs i = some (code, j) ∧ i < j ∧ j ≤ cs.length) ∧
      ∀ more, (Region.code.read cs).2 = .code → ¬ OpensComment cs.getLast? more.head? →
        codeMask (cs ++ more) = codeMask cs ++ codeMask more :=
  ⟨codeMask_length cs, codeMask_eq_read cs, sweep?_eq cs, fun _ h => next?_gets_on h,
    fun _ h ho => codeMask_append h ho⟩

/-- A text that ends in a dash, before one that begins with a quote. -/
theorem mask_in_one_pass_dash_before_quote :
    1 < "/*/ '*/ a -".toList.length ∧
      (Region.code.read "/*/ '*/ a -".toList).2 = .code ∧
      ¬ OpensComment "/*/ '*/ a -".toList.getLast? "'-'-- ?".toList.head? ∧
      (∃ code j, next? "/*/ '*/ a -".toList 1 = some (code, j) ∧ 1 < j ∧
        j ≤ "/*/ '*/ a -".toList.length) ∧
      codeMask ("/*/ '*/ a -".toList ++ "'-'-- ?".toList) =
        codeMask "/*/ '*/ a -".toList ++ codeMask "'-'-- ?".toList := by
  have hlength : 1 < "/*/ '*/ a -".toList.length := by decide
  have hcode : (Region.code.read "/*/ '*/ a -".toList).2 = .code := by decide
  have hopens : ¬ OpensComment "/*/ '*/ a -".toList.getLast? "'-'-- ?".toList.head? := by decide
  obtain ⟨-, -, -, hnext, happend⟩ := mask_in_one_pass "/*/ '*/ a -".toList
  exact ⟨hlength, hcode, hopens, hnext 1 hlength, happend _ hcode hopens⟩

end Sql

end RowQuery
