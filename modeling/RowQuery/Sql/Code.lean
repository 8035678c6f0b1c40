/-
  RowQuery — which characters of a statement are code.

  Text between quotes and in comments is opaque: a quote (single, double or backtick)
  lasts to the next quote of its kind, `--` to before the next line feed, and `/*` to
  after the next `*/` that begins after it; what is not closed lasts to the end of the
  statement. A doubled quote within a quoted text is thus the end of one and the
  beginning of another.

  * `afterOpaque?` is the text after an opaque stretch;
  * `codeMask` has one flag per character, true for code;
  * `codeMask_length`: as many flags as characters.
-/

namespace RowQuery

namespace Sql

/-- Whether a character begins and ends quoted text. -/
def isQuote (c : Char) : Bool := c = '\x27' || c = '\x22' || c = '\x60'

/-- The text after the next quote. -/
def afterQuote (q : Char) (cs : List Char) : List Char := (cs.dropWhile (· ≠ q)).drop 1

/-- The text from the next line feed on. -/
def fromLineFeed (cs : List Char) : List Char := cs.dropWhile (· ≠ '\n')

/-- The text after the next end of a block comment. -/
def afterBlock : List Char → List Char
  | [] => []
  | '*' :: '/' :: cs => cs
  | _ :: cs => afterBlock cs

/-- The text after the opaque stretch at the start of a text, if there is one. -/
def afterOpaque? : List Char → Option (List Char)
  | '-' :: '-' :: cs => some (fromLineFeed cs)
  | '/' :: '*' :: cs => some (afterBlock cs)
  | c :: cs => if isQuote c then some (afterQuote c cs) else none
  | [] => none

theorem afterBlock_length (cs : List Char) : (afterBlock cs).length ≤ cs.length := by
  fun_induction afterBlock cs with
  | case1 => simp
  | case2 cs => simp only [List.length_cons]; omega
  | case3 c cs _ ih => simp only [List.length_cons]; omega

theorem afterQuote_length (q : Char) (cs : List Char) : (afterQuote q cs).length ≤ cs.length := by
  have := (List.dropWhile_suffix (l := cs) (· ≠ q)).length_le
  simp only [afterQuote, List.length_drop]
  omega

theorem fromLineFeed_length (cs : List Char) : (fromLineFeed cs).length ≤ cs.length :=
  (List.dropWhile_suffix (· ≠ '\n')).length_le

theorem afterOpaque?_length {cs after : List Char} (h : afterOpaque? cs = some after) :
    after.length < cs.length := by
  unfold afterOpaque? at h
  split at h
  · rename_i cs
    have := fromLineFeed_length cs
    simp only [Option.some.injEq] at h
    simp only [List.length_cons, ← h]
    omega
  · rename_i cs
    have := afterBlock_length cs
    simp only [Option.some.injEq] at h
    simp only [List.length_cons, ← h]
    omega
  · rename_i c cs _ _
    have := afterQuote_length c cs
    split at h
    · simp only [Option.some.injEq] at h
      simp only [List.length_cons, ← h]
      omega
    · simp at h
  · simp at h

/-- One flag per character: whether it is code. -/
def codeMask : List Char → List Bool
  | [] => []
  | c :: cs =>
    match _h : afterOpaque? (c :: cs) with
    | some after => List.replicate ((c :: cs).length - after.length) false ++ codeMask after
    | none => true :: codeMask cs
termination_by cs => cs.length
decreasing_by
  · exact afterOpaque?_length _h
  · simp

theorem codeMask_length (cs : List Char) : (codeMask cs).length = cs.length := by
  fun_induction codeMask cs with
  | case1 => rfl
  | case2 c cs after h ih =>
    have := afterOpaque?_length h
    rw [List.length_append, List.length_replicate, ih]
    omega
  | case3 c cs _ ih => simp [ih]

/-- The characters of a statement, each with whether it is code. -/
def flagged (cs : List Char) : List (Char × Bool) := cs.zip (codeMask cs)

end Sql

end RowQuery
