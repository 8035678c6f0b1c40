/-
  RowQuery — bytes read as UTF-8.

  Each longest stretch of bytes that begins a character and cannot be completed is
  read as one U+FFFD, and so is each byte that begins no character.
-/

namespace RowQuery

namespace Utf8

/-- The bytes allowed after a lead byte, as ranges, and the bits that it contributes;
    `none` if the byte begins no character of several bytes. -/
def lead? (b : Nat) : Option (Nat × List (Nat × Nat)) :=
  let any := (0x80, 0xbf)
  if 0xc2 ≤ b ∧ b ≤ 0xdf then some (b - 0xc0, [any])
  else if b = 0xe0 then some (0, [(0xa0, 0xbf), any])
  else if b = 0xed then some (0xd, [(0x80, 0x9f), any])
  else if 0xe1 ≤ b ∧ b ≤ 0xef then some (b - 0xe0, [any, any])
  else if b = 0xf0 then some (0, [(0x90, 0xbf), any, any])
  else if b = 0xf4 then some (4, [(0x80, 0x8f), any, any])
  else if 0xf1 ≤ b ∧ b ≤ 0xf3 then some (b - 0xf0, [any, any, any])
  else none

/-- The code point `n` extended by the bytes of the ranges, and the bytes left; `none`
    at the first byte out of its range, which is left. -/
def extend (n : Nat) : List (Nat × Nat) → List UInt8 → Option Nat × List UInt8
  | [], bs => (some n, bs)
  | _ :: _, [] => (none, [])
  | r :: rs, b :: bs =>
    if r.1 ≤ b.toNat ∧ b.toNat ≤ r.2 then extend (n * 0x40 + b.toNat % 0x40) rs bs
    else (none, b :: bs)

theorem extend_length (n : Nat) (rs : List (Nat × Nat)) (bs : List UInt8) :
    (extend n rs bs).2.length ≤ bs.length := by
  fun_induction extend n rs bs with
  | case1 | case2 | case4 => simp
  | case3 n r rs b bs h ih => simp only [List.length_cons]; omega

/-- The characters of bytes, with U+FFFD for what is not UTF-8. -/
def chars : List UInt8 → List Char
  | [] => []
  | b :: bs =>
    if b.toNat < 0x80 then Char.ofNat b.toNat :: chars bs
    else
      match lead? b.toNat with
      | some (bits, rs) =>
        match _h : extend bits rs bs with
        | (some n, after) => Char.ofNat n :: chars after
        | (none, after) => '\ufffd' :: chars after
      | none => '\ufffd' :: chars bs
termination_by bs => bs.length
decreasing_by
  all_goals simp only [List.length_cons]
  any_goals omega
  all_goals
    have := extend_length bits rs bs
    rw [_h] at this
    simp only at this
    omega

/-- The text of bytes, with U+FFFD for what is not UTF-8. -/
def text (bs : List UInt8) : String := String.ofList (chars bs)

end Utf8

end RowQuery
