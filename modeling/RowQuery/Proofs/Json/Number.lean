/-
  RowQuery — numbers that are written for words and doubles.

  A word is read back from its number. A number that does not fit a signed word is read as
  a double, which is finite: it is a double from the start, or the rounding of a word of
  64 bits, far from the largest double.

  * `Number.toInt64?_ofInt64`, `Number.toUInt64?_ofUInt64`: words are read back;
  * `isFinite_toFloat_word`: the double nearest to a word is finite;
  * `Number.isFinite_toFloat`: so is the double of each number that is no signed word.
-/
import Mathlib.Algebra.Order.Ring.Int
import RowQuery.Json.Number

namespace RowQuery

/-! ## Words -/

namespace Number

theorem toInt64?_ofInt64 (n : Int64) : (ofInt64 n).toInt64? = some n := by
  have hlt := n.toInt_lt
  have hle : n.toInt ≤ maxInt64 := by
    simp only [maxInt64]
    omega
  change (if n.toInt ≤ maxInt64 then some (Int64.ofInt n.toInt) else none) = some n
  rw [if_pos hle, Int64.ofInt_toInt]

theorem toUInt64?_ofUInt64 (n : UInt64) : (ofUInt64 n).toUInt64? = some n := by
  have hpos : (0 : Int) ≤ (n.toNat : Int) := Int.natCast_nonneg _
  change (if (0 : Int) ≤ (n.toNat : Int) then some (UInt64.ofNat (n.toNat : Int).toNat) else none) =
    some n
  rw [if_pos hpos, Int.toNat_natCast, UInt64.ofNat_toNat]

end Number

/-! ## Doubles of words -/

section
open Float.Model Float.Model.UnpackedFloat

/-- A double is finite if not all bits of its exponent are set. -/
theorem isFinite_unpack {bits : BitVec Format.binary64.numBits} (h : unpackExponent bits ≠ -1#_) :
    (UnpackedFloat.unpack Format.binary64 bits).isFinite = true := by
  change UnpackedFloat.isFinite (if unpackExponent bits = -1#_ then _ else
    if unpackExponent bits = 0#_ then _ else _) = true
  rw [if_neg h]
  by_cases hzero : unpackExponent bits = 0#_
  · rw [if_pos hzero]
    by_cases hmantissa : unpackMantissa bits = 0#_
    · rw [dif_pos hmantissa]
      rfl
    · rw [dif_neg hmantissa]
      rfl
  · rw [if_neg hzero]
    rfl

/-- A number is not infinite, and its exponent is at most `k`. -/
def ExponentAtMost (k : Int) : UnpackedFloat → Prop
  | .zero _ => True
  | .finite _ _ exponent _ => exponent ≤ k
  | _ => False

theorem ExponentAtMost.mono {k l : Int} (hkl : k ≤ l) {x : UnpackedFloat}
    (h : ExponentAtMost k x) : ExponentAtMost l x := by
  cases x with
  | finite s m e hm => exact Int.le_trans h hkl
  | _ => exact h

/-- A number whose exponent is not too large becomes a finite double. -/
theorem isFinite_pack {x : UnpackedFloat} (h : ExponentAtMost 970 x) :
    (Float.Model.pack x).isFinite = true := by
  refine isFinite_unpack ?_
  change unpackExponent (UnpackedFloat.pack Format.binary64 x) ≠ _
  cases x with
  | infinity s => cases h
  | notANumber => cases h
  | zero s =>
    change unpackExponent (packComponents Format.binary64 s 0 0) ≠ _
    rw [unpackExponent_packComponents]
    decide
  | finite s m e hm =>
    have he : e ≤ 970 := h
    have hbiased : (e + (1023 : Nat) + (52 : Nat)).toNat < 2046 := by omega
    change unpackExponent (if 2048 ≤ (e + (1023 : Nat) + (52 : Nat)).toNat + 1 then _ else _) ≠ _
    rw [if_neg (by omega)]
    split
    · rw [unpackExponent_packComponents]
      intro heq
      have hnat := congrArg BitVec.toNat heq
      change (e + (1023 : Nat) + (52 : Nat)).toNat % 2048 = 2047 at hnat
      omega
    · rw [unpackExponent_packComponents]
      decide

/-! Rounding takes bits off a mantissa and may add one to it, so the exponent of what comes
of it is bounded by the size of the mantissa. -/

theorem mantissa_shiftRight_le (m : ExtendedMantissa) (k : Nat) :
    (m >>> k).mantissa ≤ m.mantissa := by
  induction k with
  | zero => exact Nat.le_refl _
  | succ k ih =>
    change (m >>> k).mantissa / 2 ≤ m.mantissa
    omega

theorem roundedMantissa_le (m : ExtendedMantissa) : m.roundedMantissa ≤ m.mantissa + 1 := by
  obtain ⟨mantissa, roundBit, stickyBit⟩ := m
  rw [ExtendedMantissa.roundedMantissa]
  cases roundBit <;> cases stickyBit <;>
    simp only [ExtendedMantissa.accuracy, Accuracy.roundToNearestEven] <;> omega

theorem log2_lt {m k : Nat} (hm : m < 2 ^ k) (hk : 0 < k) : m.log2 < k := by
  by_cases h : m = 0
  · rw [h]
    exact hk
  · exact (Nat.log2_lt h).2 hm

/-- A mantissa of `k` bits is shifted by no more than so many bits. -/
theorem shiftToTargetExponent_le {m k : Nat} {e : Int} (hm : m < 2 ^ k) (hk : 0 < k)
    (he : -1074 ≤ e) :
    (shiftToTargetExponent Format.binary64 m e .exact).1.mantissa ≤ m ∧
      e ≤ (shiftToTargetExponent Format.binary64 m e .exact).2 ∧
      (shiftToTargetExponent Format.binary64 m e .exact).2 ≤ e + k := by
  have hlog := log2_lt hm hk
  have htarget : Format.binary64.targetExponent (totalExponent m e) ≤ e + k := by
    change max ((m.log2 : Int) + 1 + e - (53 : Nat)) (-1074) ≤ e + k
    omega
  rw [shiftToTargetExponent, shiftToExponent]
  refine ⟨mantissa_shiftRight_le _ _, ?_, ?_⟩
  · change e ≤ e + ((_ : Nat) : Int)
    omega
  · change e + ((Format.binary64.targetExponent (totalExponent m e) - e).toNat : Int) ≤ e + k
    omega

theorem exponentAtMost_roundWithAccuracy {m k : Nat} {e : Int} (hm : m < 2 ^ k) (hk : 0 < k)
    (he : -1074 ≤ e) (s : Sign) :
    ExponentAtMost (e + 2 * k + 1) (roundWithAccuracy Format.binary64 s m e .exact) := by
  obtain ⟨hm₁, he₁, hle₁⟩ := shiftToTargetExponent_le hm hk he
  rw [roundWithAccuracy]
  generalize shiftToTargetExponent Format.binary64 m e .exact = first at hm₁ he₁ hle₁
  obtain ⟨em, e₁⟩ := first
  have hpow : 2 ^ (k + 1) = 2 * 2 ^ k := by rw [Nat.pow_succ, Nat.mul_comm]
  have hrounded : em.roundedMantissa < 2 ^ (k + 1) := by
    have hle := roundedMantissa_le em
    dsimp only at hm₁
    omega
  dsimp only at he₁ hle₁
  obtain ⟨-, -, hle₂⟩ := shiftToTargetExponent_le hrounded (Nat.succ_pos k) (by omega : -1074 ≤ e₁)
  change ExponentAtMost _ (if _ : (shiftToTargetExponent Format.binary64 em.roundedMantissa e₁
    .exact).1.mantissa = 0 then _ else _)
  by_cases hzero : (shiftToTargetExponent Format.binary64 em.roundedMantissa e₁
      .exact).1.mantissa = 0
  · rw [dif_pos hzero]
    exact True.intro
  · rw [dif_neg hzero]
    change (shiftToTargetExponent Format.binary64 em.roundedMantissa e₁ .exact).2 ≤ e + 2 * k + 1
    push_cast at hle₂
    omega

/-- **The double nearest to a word is finite.** -/
theorem isFinite_toFloat_word (w : UInt64) : w.toFloat.isFinite = true := by
  refine isFinite_pack ?_
  have hlt : w.toNat < 2 ^ 64 := w.toNat_lt
  change ExponentAtMost 970 (UnpackedFloat.normalize Format.binary64 (w.toNat : Int) 0 .positive)
  rw [UnpackedFloat.normalize]
  split
  · rename_i h
    rw [Int.compare_eq_lt] at h
    omega
  · exact True.intro
  · rw [UnpackedFloat.round, decreaseExponent, Int.toNat_natCast]
    have hlog := log2_lt hlt (by decide)
    have htarget : -52 ≤ Format.binary64.targetExponent (totalExponent w.toNat 0) := by
      change -52 ≤ max ((w.toNat.log2 : Int) + 1 + 0 - (53 : Nat)) (-1074)
      omega
    generalize Format.binary64.targetExponent (totalExponent w.toNat 0) = target at htarget
    have hshift : (0 - target).toNat ≤ 52 := by omega
    have hm : w.toNat <<< (0 - target).toNat < 2 ^ 116 := by
      rw [Nat.shiftLeft_eq]
      have hpow : 2 ^ (0 - target).toNat ≤ 2 ^ 52 := Nat.pow_le_pow_right (by decide) hshift
      calc w.toNat * 2 ^ (0 - target).toNat ≤ w.toNat * 2 ^ 52 := Nat.mul_le_mul_left _ hpow
        _ < 2 ^ 64 * 2 ^ 52 := Nat.mul_lt_mul_of_pos_right hlt (by decide)
        _ = 2 ^ 116 := by decide
    refine (exponentAtMost_roundWithAccuracy hm (by decide) ?_ .positive).mono ?_ <;> omega

end

/-- **A number that is no signed word is read as a finite double.** -/
theorem Number.isFinite_toFloat {n : Number} (h : n.toInt64? = none) :
    n.toFloat.isFinite = true := by
  cases n with
  | float x hx => exact hx
  | int n hn =>
    have hlarge : ¬ n ≤ maxInt64 := by
      intro hle
      rw [toInt64?, if_pos hle] at h
      cases h
    have hpos : ¬ n < 0 := by
      simp only [maxInt64] at hlarge
      omega
    rw [toFloat]
    simp only [if_neg hpos]
    exact isFinite_toFloat_word _

end RowQuery
