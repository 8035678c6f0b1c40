/-
  RowQuery — the mask of a statement, by positions.

  A statement can be read by positions in it and not by what is left of it: what is met at a
  position tells the position to go on from, found by a search further on, and the flags
  between the two are cleared. Every part of the statement or of its flags that is asked for
  is checked to be there, and so is that reading gets on: otherwise there is no answer.

  * `next?` is what is met at a position, `sweep?` the flags after reading all of it;
  * `next?_eq`: at a position, a search finds where what is left after the opaque stretch
    begins;
  * `next?_reads`: what is met has the flags of the mask, gets on and stays within the
    statement;
  * `sweepOn?_step`, `sweep?_eq`: every step settles flags of the mask, and so all of them are
    the mask.
-/
import RowQuery.Proofs.Sql.Scanner

namespace RowQuery

namespace Sql

/-! ## Reading by positions -/

/-- The part of a text from a position on, if the text reaches there. -/
def partFrom? (cs : List Char) (i : Nat) : Option (List Char) :=
  if i ≤ cs.length then some (cs.drop i) else none

/-- Flags with those from `i` to before `j` cleared, if there are such flags. -/
def clear? (flags : List Bool) (i j : Nat) : Option (List Bool) :=
  if i ≤ j ∧ j ≤ flags.length then
    some (flags.take i ++ List.replicate (j - i) false ++ flags.drop j)
  else none

/-- Flags after what is met from `i` to before `j`: code leaves them set. -/
def settle? (flags : List Bool) (code : Bool) (i j : Nat) : Option (List Bool) :=
  if code then some flags else clear? flags i j

/-- Where the first end of a block comment is among the pairs of neighbours of a text. -/
def blockEnd? (cs : List Char) : Option Nat := (cs.zip cs.tail).idxOf? ('*', '/')

/-- The position so many characters behind what a search from `i` has found; what is not
    found leads to the end of the text. -/
def behind (cs : List Char) (i : Nat) (found : Option Nat) (n : Nat) : Nat :=
  found.elim cs.length fun p => i + p + n

/-- What is met at a position: whether it is code, and the position to go on from. -/
def next? (cs : List Char) (i : Nat) : Option (Bool × Nat) := do
  let c ← cs[i]?
  if isQuote c then
    let rest ← partFrom? cs (i + 1)
    return (false, behind cs i (rest.idxOf? c) 2)
  else if c = '-' ∧ cs[i + 1]? = some '-' then
    let rest ← partFrom? cs i
    return (false, behind cs i (rest.idxOf? '\n') 0)
  else if c = '/' ∧ cs[i + 1]? = some '*' then
    let rest ← partFrom? cs (i + 2)
    return (false, behind cs i (blockEnd? rest) 4)
  else
    return (true, i + 1)

/-- The flags of a text after reading it from a position to its end. -/
def sweepFrom? (cs : List Char) (i : Nat) (flags : List Bool) : Option (List Bool) :=
  if i < cs.length then do
    let (code, j) ← next? cs i
    let flags ← settle? flags code i j
    if i < j then sweepFrom? cs j flags else none
  else some flags
termination_by cs.length - i

/-- The flags of a text after reading it all: they are set at first. -/
def sweep? (cs : List Char) : Option (List Bool) :=
  sweepFrom? cs 0 (List.replicate cs.length true)

/-! ## Searches and what is left after them -/

/-- A search for a quote passes what is before it, and the quote. -/
theorem length_sub_afterQuote (q : Char) (cs : List Char) :
    cs.length - (afterQuote q cs).length = (cs.idxOf? q).elim cs.length (· + 1) := by
  induction cs with
  | nil => rfl
  | cons c cs ih =>
    have hle := afterQuote_length q cs
    by_cases h : c = q
    · subst h
      simp [afterQuote, List.idxOf?_cons]
    · have hq : afterQuote q (c :: cs) = afterQuote q cs := by simp [afterQuote, h]
      rw [hq, List.length_cons, Nat.succ_sub hle, ih]
      cases hp : cs.idxOf? q <;> simp [List.idxOf?_cons, h, hp]

/-- A search for a line feed passes what is before it. -/
theorem length_sub_fromLineFeed (cs : List Char) :
    cs.length - (fromLineFeed cs).length = (cs.idxOf? '\n').elim cs.length (· + 0) := by
  induction cs with
  | nil => rfl
  | cons c cs ih =>
    have hle := fromLineFeed_length cs
    by_cases h : c = '\n'
    · simp [fromLineFeed, List.idxOf?_cons, h]
    · have hl : fromLineFeed (c :: cs) = fromLineFeed cs := by simp [fromLineFeed, h]
      rw [hl, List.length_cons, Nat.succ_sub hle, ih]
      cases hp : cs.idxOf? '\n' <;> simp [List.idxOf?_cons, h, hp]

/-- A search for the end of a block comment passes what is before it, and the end. -/
theorem length_sub_afterBlock (cs : List Char) :
    cs.length - (afterBlock cs).length = (blockEnd? cs).elim cs.length (· + 2) := by
  fun_induction afterBlock cs with
  | case1 => rfl
  | case2 cs =>
    have hlen : cs.length + 1 + 1 - cs.length = 2 := by omega
    simp [blockEnd?, List.idxOf?_cons, hlen]
  | case3 c cs hc ih =>
    have hle := afterBlock_length cs
    have hend : blockEnd? (c :: cs) = (blockEnd? cs).map (· + 1) := by
      cases cs with
      | nil => rfl
      | cons d cs =>
        have hne : (c, d) ≠ ('*', '/') := by
          rintro h
          obtain ⟨rfl, rfl⟩ := Prod.mk.inj h
          exact hc _ rfl rfl
        simp [blockEnd?, List.idxOf?_cons, hne]
    rw [List.length_cons, Nat.succ_sub hle, ih, hend]
    cases blockEnd? cs <;> simp

theorem partFrom?_of_le {cs : List Char} {i : Nat} (h : i ≤ cs.length) :
    partFrom? cs i = some (cs.drop i) := if_pos h

/-- A search in the part of a text from `i + k` on finds where what is left after it begins. -/
theorem behind_eq {cs after : List Char} {i k n : Nat} {found : Option Nat}
    (hk : i + k ≤ cs.length) (hle : after.length ≤ (cs.drop (i + k)).length)
    (h : (cs.drop (i + k)).length - after.length =
      found.elim (cs.drop (i + k)).length (· + n)) :
    behind cs i found (k + n) = cs.length - after.length := by
  rw [List.length_drop] at hle h
  cases found with
  | none =>
    simp only [behind, Option.elim_none] at h ⊢
    omega
  | some p =>
    simp only [behind, Option.elim_some] at h ⊢
    omega

/-- What is met at a position that has something left. -/
def met (cs left : List Char) : Bool × Nat :=
  match afterOpaque? left with
  | some after => (false, cs.length - after.length)
  | none => (true, cs.length - left.length + 1)

/-- **What is met at a position is told by what is left there.** -/
theorem next?_eq {cs : List Char} {i : Nat} (h : i < cs.length) :
    next? cs i = some (met cs (cs.drop i)) := by
  obtain ⟨c, left, hleft⟩ : ∃ c left, cs.drop i = c :: left :=
    ⟨_, _, List.drop_eq_getElem_cons h⟩
  have hc : cs[i]? = some c := by
    rw [← List.head?_drop, hleft, List.head?_cons]
  have hdrop : cs.drop (i + 1) = left := by
    rw [← List.tail_drop, hleft, List.tail_cons]
  have hlook : cs[i + 1]? = left.head? := by
    rw [← List.head?_drop, hdrop]
  have hlen : cs.length - (c :: left).length = i := by
    rw [← hleft, List.length_drop]
    omega
  rw [hleft, met, afterOpaque?_cons]
  simp only [next?, hc, hlook, Option.bind_eq_bind, Option.bind_some]
  by_cases hq : isQuote c = true
  · have hle := afterQuote_length c left
    have hstop := length_sub_afterQuote c left
    rw [← hdrop] at hle hstop
    simp only [if_pos hq, partFrom?_of_le h, Option.bind_some, ← hdrop]
    exact congrArg (fun j => some (false, j)) (behind_eq h hle hstop)
  by_cases hl : c = '-' ∧ left.head? = some '-'
  · have hle := fromLineFeed_length (c :: left)
    have hstop := length_sub_fromLineFeed (c :: left)
    rw [← hleft] at hle hstop
    simp only [if_neg hq, if_pos hl, partFrom?_of_le (Nat.le_of_lt h), Option.bind_some, ← hleft]
    exact congrArg (fun j => some (false, j)) (behind_eq (k := 0) (Nat.le_of_lt h) hle hstop)
  by_cases hb : c = '/' ∧ left.head? = some '*'
  · -- the star is there, so the search begins within the text
    have hstar : i + 2 ≤ cs.length := by
      rw [← hlook] at hb
      exact (List.getElem?_eq_some_iff.1 hb.2).1
    have htail : cs.drop (i + 2) = left.tail := by rw [← hdrop, List.tail_drop]
    have hle := afterBlock_length left.tail
    have hstop := length_sub_afterBlock left.tail
    rw [← htail] at hle hstop
    simp only [if_neg hq, if_neg hl, if_pos hb, partFrom?_of_le hstar, Option.bind_some, ← htail]
    exact congrArg (fun j => some (false, j)) (behind_eq hstar hle hstop)
  · simp only [if_neg hq, if_neg hl, if_neg hb, hlen]
    rfl

/-! ## The sweep -/

theorem afterBlock_suffix (cs : List Char) : afterBlock cs <:+ cs := by
  fun_induction afterBlock cs with
  | case1 => exact List.suffix_rfl
  | case2 cs => exact ⟨['*', '/'], rfl⟩
  | case3 c cs _ ih => exact ih.trans (List.suffix_cons c cs)

/-- What is left after an opaque stretch is a part of the text up to its end. -/
theorem afterOpaque?_suffix {cs after : List Char} (h : afterOpaque? cs = some after) :
    after <:+ cs := by
  cases cs with
  | nil => cases h
  | cons c cs =>
    rw [afterOpaque?_cons] at h
    split at h
    · obtain rfl := Option.some.inj h
      exact ((List.drop_suffix _ _).trans (List.dropWhile_suffix _)).trans (List.suffix_cons c cs)
    split at h
    · obtain rfl := Option.some.inj h
      exact List.dropWhile_suffix _
    split at h
    · obtain rfl := Option.some.inj h
      exact ((afterBlock_suffix _).trans (List.tail_suffix cs)).trans (List.suffix_cons c cs)
    · cases h

/-- The mask of a text that begins with an opaque stretch. -/
theorem codeMask_of_afterOpaque? {cs after : List Char} (h : afterOpaque? cs = some after) :
    codeMask cs = List.replicate (cs.length - after.length) false ++ codeMask after := by
  rw [codeMask_eq_flags, codeMask_eq_flags, Scan.flags_opaque h]

/-- The mask of a text that begins with code. -/
theorem codeMask_cons_of_code {c : Char} {cs : List Char} (h : afterOpaque? (c :: cs) = none) :
    codeMask (c :: cs) = true :: codeMask cs := by
  rw [codeMask_eq_flags, codeMask_eq_flags, Scan.flags_cons, Scan.step_code h]

/-- **What is met at a position** has the flags of the mask, gets on and stays within the
    text. -/
theorem next?_reads {cs : List Char} {i : Nat} (h : i < cs.length) :
    ∃ code n, next? cs i = some (code, i + n) ∧ 0 < n ∧ i + n ≤ cs.length ∧
      codeMask (cs.drop i) = List.replicate n code ++ codeMask (cs.drop (i + n)) := by
  have hlen : (cs.drop i).length = cs.length - i := List.length_drop
  rw [next?_eq h, met]
  cases hafter : afterOpaque? (cs.drop i) with
  | some after =>
    have hlt := afterOpaque?_length hafter
    have hleft : cs.drop (i + ((cs.drop i).length - after.length)) = after := by
      rw [← List.drop_drop, ← List.suffix_iff_eq_drop.1 (afterOpaque?_suffix hafter)]
    have hstop : cs.length - after.length = i + ((cs.drop i).length - after.length) := by omega
    refine ⟨false, (cs.drop i).length - after.length, ?_, by omega, by omega, ?_⟩
    · dsimp only
      rw [hstop]
    · rw [hleft]
      exact codeMask_of_afterOpaque? hafter
  | none =>
    obtain ⟨c, left, hleft⟩ : ∃ c left, cs.drop i = c :: left :=
      ⟨_, _, List.drop_eq_getElem_cons h⟩
    have hstop : cs.length - (cs.drop i).length + 1 = i + 1 := by omega
    refine ⟨true, 1, ?_, Nat.one_pos, h, ?_⟩
    · dsimp only
      rw [hstop]
    · rw [hleft] at hafter
      rw [← List.tail_drop, hleft]
      exact codeMask_cons_of_code hafter

/-- **Reading gets on and stays within the text.** -/
theorem next?_gets_on {cs : List Char} {i : Nat} (h : i < cs.length) :
    ∃ code j, next? cs i = some (code, j) ∧ i < j ∧ j ≤ cs.length := by
  obtain ⟨code, n, hnext, hpos, hle, -⟩ := next?_reads h
  exact ⟨code, i + n, hnext, Nat.lt_add_of_pos_right hpos, hle⟩

/-- Behind flags that are settled, so many of those that are still set are settled too. -/
theorem settle?_append (done : List Bool) (code : Bool) {n m : Nat} (h : n ≤ m) :
    settle? (done ++ List.replicate m true) code done.length (done.length + n) =
      some (done ++ List.replicate n code ++ List.replicate (m - n) true) := by
  cases code with
  | true =>
    rw [settle?, if_pos rfl, List.append_assoc, List.replicate_append_replicate,
      Nat.add_sub_cancel' h]
  | false =>
    have hin : done.length ≤ done.length + n ∧
        done.length + n ≤ (done ++ List.replicate m true).length := by
      rw [List.length_append, List.length_replicate]
      omega
    rw [settle?, if_neg Bool.false_ne_true, clear?, if_pos hin, List.take_left,
      Nat.add_sub_cancel_left, List.drop_append, List.drop_replicate]
    simp

/-- The sweep of a text whose flags before a position are settled. -/
def sweepOn? (cs : List Char) (done : List Bool) : Option (List Bool) :=
  sweepFrom? cs done.length (done ++ List.replicate (cs.length - done.length) true)

/-- **One step of a sweep** settles more flags, those that the mask has there. -/
theorem sweepOn?_step {cs : List Char} {done : List Bool} (h : done.length < cs.length) :
    ∃ more, more ≠ [] ∧ (done ++ more).length ≤ cs.length ∧
      codeMask (cs.drop done.length) = more ++ codeMask (cs.drop (done ++ more).length) ∧
      sweepOn? cs done = sweepOn? cs (done ++ more) := by
  obtain ⟨code, n, hnext, hpos, hle, hmask⟩ := next?_reads h
  have hlen : (done ++ List.replicate n code).length = done.length + n := by simp
  have hne : List.replicate n code ≠ [] := by
    rw [Ne, List.replicate_eq_nil_iff]
    omega
  refine ⟨List.replicate n code, hne, by rwa [hlen], by rwa [hlen], ?_⟩
  have hlt : done.length < done.length + n := Nat.lt_add_of_pos_right hpos
  have hleft : n ≤ cs.length - done.length := by omega
  rw [sweepOn?, sweepOn?, sweepFrom?, if_pos h, hnext, hlen, Nat.sub_add_eq]
  simp only [Option.bind_eq_bind, Option.bind_some, settle?_append done code hleft]
  rw [if_pos hlt]

/-- **A sweep** puts the mask of what is left after the flags that are settled. -/
theorem sweepOn?_eq {cs : List Char} {done : List Bool} (h : done.length ≤ cs.length) :
    sweepOn? cs done = some (done ++ codeMask (cs.drop done.length)) := by
  rcases Nat.lt_or_eq_of_le h with hlt | heq
  · obtain ⟨more, hne, hle, hmask, hstep⟩ := sweepOn?_step hlt
    have hpos := List.length_pos_iff.2 hne
    rw [hstep, sweepOn?_eq hle, hmask, List.append_assoc]
  · rw [sweepOn?, sweepFrom?, heq, List.drop_length, Nat.sub_self, codeMask, if_neg (by simp)]
    rfl
termination_by cs.length - done.length
decreasing_by
  rw [List.length_append]
  omega

/-- **The flags of a text read by positions are its mask.** -/
theorem sweep?_eq (cs : List Char) : sweep? cs = some (codeMask cs) := by
  have hnone : ([] : List Bool).length ≤ cs.length := Nat.zero_le _
  exact sweepOn?_eq hnone

end Sql

end RowQuery
