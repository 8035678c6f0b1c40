/-
  RowQuery — the double nearest to a rational number.

  A computation of doubles is a mantissa and an exponent with an accuracy, which says where
  the exact value lies behind the mantissa. How it is rounded depends on that value alone, as
  long as the mantissa has all the bits of a double, so two computations of one value end with
  one double.

  * `Measures`: what an accuracy says of a value;
  * `nearestNat`: the natural number nearest to a rational one, of two the even one;
  * `binade`: the exponent of the last bit of the double nearest to a value;
  * `nearestDouble`, `roundWithAccuracy_eq`: the double that every computation ends with.
-/
import Mathlib
import RowQuery.Proofs.Json.Number

namespace RowQuery

open Float.Model Float.Model.UnpackedFloat

/-! ## Accuracies -/

/-- **What an accuracy says** of a value of which a natural number is the whole part. -/
def Measures : Accuracy → Nat → ℚ → Prop
  | .exact, m, w => w = m
  | .inexact .lt, m, w => m < w ∧ w < m + 1 / 2
  | .inexact .eq, m, w => w = m + 1 / 2
  | .inexact .gt, m, w => m + 1 / 2 < w ∧ w < m + 1

theorem Measures.bounds {a : Accuracy} {m : Nat} {w : ℚ} (h : Measures a m w) : m ≤ w ∧ w < m + 1 := by
  rcases a with _ | (_ | _ | _) <;> simp only [Measures] at h <;> constructor <;> linarith

/-- A bit is taken off a mantissa: what was left behind it is not forgotten. -/
theorem measures_shiftRightOne {em : ExtendedMantissa} {w : ℚ} (h : Measures em.accuracy em.mantissa w) :
    Measures em.shiftRightOne.accuracy em.shiftRightOne.mantissa (w / 2) := by
  obtain ⟨m, roundBit, stickyBit⟩ := em
  have hm : ((m % 2 : Nat) : ℚ) + 2 * ((m / 2 : Nat) : ℚ) = m := by
    exact_mod_cast Nat.mod_add_div m 2
  rcases Nat.mod_two_eq_zero_or_one m with hparity | hparity <;>
    rw [hparity] at hm <;> push_cast at hm <;> cases roundBit <;> cases stickyBit <;>
    simp [ExtendedMantissa.accuracy, ExtendedMantissa.shiftRightOne, hparity, Measures] at h ⊢ <;>
    first
    | linarith
    | (constructor <;> linarith)

theorem measures_shiftRight {em : ExtendedMantissa} {w : ℚ} (h : Measures em.accuracy em.mantissa w)
    (k : Nat) : Measures (em >>> k).accuracy (em >>> k).mantissa (w / 2 ^ k) := by
  induction k with
  | zero => rwa [pow_zero, div_one]
  | succ k ih =>
    rw [pow_succ, ← div_div]
    exact measures_shiftRightOne ih

theorem accuracy_ofMantissaAndAccuracy (m : Nat) (a : Accuracy) :
    (ExtendedMantissa.ofMantissaAndAccuracy m a).accuracy = a ∧
      (ExtendedMantissa.ofMantissaAndAccuracy m a).mantissa = m := by
  rcases a with _ | (_ | _ | _) <;> exact ⟨rfl, rfl⟩

/-- The rest of a division tells where the quotient lies. -/
theorem measures_accuracyOfFraction (m : Nat) {d : Nat} (hd : 0 < d) :
    Measures (accuracyOfFraction (m % d) d) (m / d) (m / d) := by
  have hdivide : (d : ℚ) * ((m / d : Nat) : ℚ) + ((m % d : Nat) : ℚ) = m := by
    exact_mod_cast Nat.div_add_mod m d
  have hpos : (0 : ℚ) < d := by exact_mod_cast hd
  have hvalue : (m : ℚ) / d = ((m / d : Nat) : ℚ) + ((m % d : Nat) : ℚ) / d := by
    rw [← hdivide]
    field_simp
  have hlt : ((m % d : Nat) : ℚ) / d < 1 := by
    rw [div_lt_one hpos]
    exact_mod_cast Nat.mod_lt m hd
  rw [accuracyOfFraction, hvalue]
  by_cases hzero : m % d = 0
  · rw [if_pos hzero, hzero]
    simp [Measures]
  · have hrest : 0 < ((m % d : Nat) : ℚ) / d := by
      have : (0 : ℚ) < ((m % d : Nat) : ℚ) := by exact_mod_cast Nat.pos_of_ne_zero hzero
      positivity
    rw [if_neg hzero]
    rcases lt_trichotomy (2 * (m % d)) d with hcase | hcase | hcase
    · have hhalf : ((m % d : Nat) : ℚ) / d < 1 / 2 := by
        rw [div_lt_div_iff₀ hpos two_pos]
        have : (2 : ℚ) * ((m % d : Nat) : ℚ) < d := by exact_mod_cast hcase
        linarith
      rw [Nat.compare_eq_lt.2 hcase]
      constructor <;> linarith
    · have hhalf : ((m % d : Nat) : ℚ) / d = 1 / 2 := by
        rw [div_eq_div_iff hpos.ne' two_ne_zero]
        have : (2 : ℚ) * ((m % d : Nat) : ℚ) = d := by exact_mod_cast hcase
        linarith
      rw [Nat.compare_eq_eq.2 hcase]
      exact congrArg _ hhalf
    · have hhalf : 1 / 2 < ((m % d : Nat) : ℚ) / d := by
        rw [div_lt_div_iff₀ two_pos hpos]
        have : (d : ℚ) < 2 * ((m % d : Nat) : ℚ) := by exact_mod_cast hcase
        linarith
      rw [Nat.compare_eq_gt.2 hcase]
      constructor <;> linarith

/-! ## Nearest natural numbers -/

/-- The natural number nearest to a rational one that is not negative, of two the even one. -/
def nearestNat (w : ℚ) : Nat :=
  if w < ⌊w⌋₊ + 1 / 2 then ⌊w⌋₊
  else if w = ⌊w⌋₊ + 1 / 2 then ⌊w⌋₊ + ⌊w⌋₊ % 2
  else ⌊w⌋₊ + 1

/-- Rounding by an accuracy is rounding of the value. -/
theorem Measures.roundToNearestEven {a : Accuracy} {m : Nat} {w : ℚ} (h : Measures a m w) :
    a.roundToNearestEven m = nearestNat w := by
  obtain ⟨hle, hlt⟩ := h.bounds
  have hfloor : ⌊w⌋₊ = m := (Nat.floor_eq_iff (le_trans (Nat.cast_nonneg m) hle)).2 ⟨hle, hlt⟩
  rw [nearestNat, hfloor]
  rcases a with _ | (_ | _ | _) <;> simp only [Measures] at h
  · rw [if_pos (by linarith)]
    rfl
  · rw [if_pos h.2]
    rfl
  · rw [if_neg (by linarith), if_pos h]
    rfl
  · rw [if_neg (by linarith [h.1]), if_neg (by linarith [h.1])]
    rfl

/-! ## Doubles -/

/-- The exponent of the last bit of the double nearest to a positive value. -/
def binade (v : ℚ) : ℤ := max (Int.log 2 v - 52) (-1074)

/-- A rounded mantissa of at most 53 bits, or of one more bit by a carry. -/
def carried (m : Nat) (e : ℤ) : UnpackedFloat :=
  let shifted := shiftToTargetExponent Format.binary64 m e .exact
  if h : shifted.1.mantissa = 0 then .zero .positive
  else .finite .positive shifted.1.mantissa shifted.2 (Nat.pos_of_ne_zero h)

/-- **The double nearest to a positive value.** -/
def nearestDouble (v : ℚ) : UnpackedFloat := carried (nearestNat (v / 2 ^ binade v)) (binade v)

/-- The binary logarithm of a value, by the bits of its whole part. -/
theorem log_eq {m : Nat} {v : ℚ} {e : ℤ} (hm : m ≠ 0) (hle : m ≤ v / 2 ^ e)
    (hlt : v / 2 ^ e < m + 1) :
    Int.log 2 v = m.log2 + e := by
  have hpow : (0 : ℚ) < 2 ^ e := zpow_pos two_pos e
  rw [le_div_iff₀ hpow] at hle
  rw [div_lt_iff₀ hpow] at hlt
  have hv : 0 < v := lt_of_lt_of_le (mul_pos (by exact_mod_cast Nat.pos_of_ne_zero hm) hpow) hle
  have hbelow : ((2 : Nat) : ℚ) ^ ((m.log2 : ℤ) + e) ≤ v := by
    have hbits : ((2 ^ m.log2 : Nat) : ℚ) ≤ m := by exact_mod_cast Nat.log2_self_le hm
    rw [zpow_add₀ (by norm_num), zpow_natCast]
    push_cast at hbits ⊢
    exact le_trans (mul_le_mul_of_nonneg_right hbits hpow.le) hle
  have habove : v < ((2 : Nat) : ℚ) ^ ((m.log2 : ℤ) + e + 1) := by
    have hbits : ((m + 1 : Nat) : ℚ) ≤ ((2 ^ (m.log2 + 1) : Nat) : ℚ) := by
      exact_mod_cast Nat.lt_log2_self
    have hexponent : (m.log2 : ℤ) + e + 1 = ((m.log2 + 1 : Nat) : ℤ) + e := by
      push_cast
      ring
    rw [hexponent, zpow_add₀ (by norm_num), zpow_natCast]
    push_cast at hbits ⊢
    exact lt_of_lt_of_le hlt (mul_le_mul_of_nonneg_right hbits hpow.le)
  refine le_antisymm ?_ ((Int.zpow_le_iff_le_log one_lt_two hv).1 hbelow)
  exact Int.lt_add_one_iff.1 ((Int.lt_zpow_iff_log_lt one_lt_two hv).1 habove)

/-- The exponent that a computation is shifted to is that of its value. -/
theorem targetExponent_eq {m : Nat} {v : ℚ} {e : ℤ} (hv : 0 < v) (hle : m ≤ v / 2 ^ e)
    (hlt : v / 2 ^ e < m + 1) (he : e ≤ binade v) :
    Format.binary64.targetExponent (totalExponent m e) = binade v := by
  change max ((m.log2 : ℤ) + 1 + e - (53 : Nat)) (-1074) = max (Int.log 2 v - 52) (-1074)
  by_cases hm : m = 0
  · -- such a value is below all normal doubles
    subst hm
    have hbelow : v < ((2 : Nat) : ℚ) ^ e := by
      rw [div_lt_iff₀ (zpow_pos two_pos e)] at hlt
      simpa using hlt
    have hlog : Int.log 2 v < e := (Int.lt_zpow_iff_log_lt one_lt_two hv).1 hbelow
    simp only [binade] at he
    have hlog2 : (0 : Nat).log2 = 0 := by decide
    rw [hlog2]
    omega
  · rw [log_eq hm hle hlt]
    omega

/-- **Every computation of a value ends with the double nearest to it**, if its mantissa has
    all the bits of that double. -/
theorem roundWithAccuracy_eq {a : Accuracy} {m : Nat} {v : ℚ} {e : ℤ} (hv : 0 < v)
    (h : Measures a m (v / 2 ^ e)) (he : e ≤ binade v) :
    roundWithAccuracy Format.binary64 .positive m e a = nearestDouble v := by
  have htarget := targetExponent_eq hv h.bounds.1 h.bounds.2 he
  have hshift : e + ((binade v - e).toNat : ℤ) = binade v := by omega
  change carried (shiftToTargetExponent Format.binary64 m e a).1.roundedMantissa
    (shiftToTargetExponent Format.binary64 m e a).2 = _
  rw [shiftToTargetExponent, htarget, shiftToExponent, hshift, nearestDouble]
  congr 1
  have hmantissa : Measures (ExtendedMantissa.ofMantissaAndAccuracy m a).accuracy
      (ExtendedMantissa.ofMantissaAndAccuracy m a).mantissa (v / 2 ^ e) := by
    rwa [(accuracy_ofMantissaAndAccuracy m a).1, (accuracy_ofMantissaAndAccuracy m a).2]
  have hscale : v / 2 ^ e / 2 ^ (binade v - e).toNat = v / 2 ^ binade v := by
    rw [div_div, ← zpow_natCast, ← zpow_add₀ two_ne_zero, hshift]
  rw [← hscale]
  exact (measures_shiftRight hmantissa _).roundToNearestEven

/-! ## Exact, small and large values -/

theorem nearestNat_natCast (m : Nat) : nearestNat m = m :=
  (Measures.roundToNearestEven (a := .exact) rfl).symm

theorem nearestNat_le {w : ℚ} {k : Nat} (hw : 0 ≤ w) (h : w < k) : nearestNat w ≤ k := by
  have hfloor : ⌊w⌋₊ < k := (Nat.floor_lt hw).2 h
  rw [nearestNat]
  split_ifs <;> omega

theorem le_nearestNat {w : ℚ} {k : Nat} (h : k ≤ w) : k ≤ nearestNat w := by
  have hfloor : k ≤ ⌊w⌋₊ := Nat.le_floor h
  rw [nearestNat]
  split_ifs <;> omega

theorem nearestNat_eq_zero {w : ℚ} (h : w < 1 / 2) : nearestNat w = 0 := by
  have hfloor : ⌊w⌋₊ = 0 := Nat.floor_eq_zero.2 (by linarith)
  rw [nearestNat, hfloor, if_pos (by simpa using h)]

theorem shiftToTargetExponent_eq {m k : Nat} {e : ℤ}
    (h : (Format.binary64.targetExponent (totalExponent m e) - e).toNat = k) :
    shiftToTargetExponent Format.binary64 m e .exact =
      (ExtendedMantissa.ofMantissaAndAccuracy m .exact >>> k, e + k) := by
  rw [shiftToTargetExponent, shiftToExponent, h]

/-- A mantissa without a carry is left as it is. -/
theorem carried_of_lt {m : Nat} {e : ℤ} (hm : m < 2 ^ 53) (he : -1074 ≤ e) :
    carried m e = if h : m = 0 then .zero .positive
      else .finite .positive m e (Nat.pos_of_ne_zero h) := by
  have hlog := log2_lt hm (by decide)
  have htarget : Format.binary64.targetExponent (totalExponent m e) ≤ e := by
    change max ((m.log2 : ℤ) + 1 + e - (53 : Nat)) (-1074) ≤ e
    omega
  have hshift : (Format.binary64.targetExponent (totalExponent m e) - e).toNat = 0 := by omega
  simp only [carried, shiftToTargetExponent_eq hshift]
  change (if h : m = 0 then UnpackedFloat.zero .positive else .finite .positive m (e + 0) _) = _
  simp only [add_zero]

/-- A carry is shifted out. -/
theorem carried_carry {e : ℤ} (he : -1074 ≤ e) :
    carried (2 ^ 53) e = .finite .positive (2 ^ 52) (e + 1) (by decide) := by
  have htarget : Format.binary64.targetExponent (totalExponent (2 ^ 53) e) = e + 1 := by
    rw [totalExponent, Nat.log2_two_pow]
    change max (((53 : Nat) : ℤ) + 1 + e - (53 : Nat)) (-1074) = e + 1
    omega
  have hshift : (Format.binary64.targetExponent (totalExponent (2 ^ 53) e) - e).toNat = 1 := by
    omega
  simp only [carried, shiftToTargetExponent_eq hshift]
  rfl

/-- **A double is the one nearest to its own value.** -/
theorem nearestDouble_exact {m : Nat} {e : ℤ} (hm : 0 < m) (hlt : m < 2 ^ 53) (he : -1074 ≤ e)
    (hnormal : 2 ^ 52 ≤ m ∨ e = -1074) :
    nearestDouble (m * 2 ^ e) = .finite .positive m e hm := by
  have hpow : (0 : ℚ) < 2 ^ e := zpow_pos two_pos e
  have hvalue : (m : ℚ) * 2 ^ e / 2 ^ e = m := mul_div_cancel_right₀ _ hpow.ne'
  have hlog : Int.log 2 ((m : ℚ) * 2 ^ e) = m.log2 + e :=
    log_eq hm.ne' hvalue.ge (by rw [hvalue]; exact lt_add_one _)
  have hbinade : binade (m * 2 ^ e) = e := by
    have hbits := log2_lt hlt (by decide)
    rw [binade, hlog]
    rcases hnormal with hnormal | rfl
    · have hbits' : 52 ≤ m.log2 := (Nat.le_log2 hm.ne').2 hnormal
      omega
    · omega
  rw [nearestDouble, hbinade, hvalue, nearestNat_natCast, carried_of_lt hlt he, dif_neg hm.ne']

theorem log_lt {v : ℚ} {e : ℤ} (hv : 0 < v) (h : v < 2 ^ e) : Int.log 2 v < e :=
  (Int.lt_zpow_iff_log_lt one_lt_two hv).1 (by simpa using h)

/-- A value below half of the least double is zero. -/
theorem nearestDouble_small {v : ℚ} (hv : 0 < v) (h : v < 2 ^ (-1075 : ℤ)) :
    nearestDouble v = .zero .positive := by
  have hbinade : binade v = -1074 := by
    have hlog := log_lt hv h
    rw [binade]
    omega
  have hhalf : v / 2 ^ (-1074 : ℤ) < 1 / 2 := by
    rw [div_lt_iff₀ (zpow_pos two_pos _)]
    refine lt_of_lt_of_eq h ?_
    rw [show (-1074 : ℤ) = -1075 + 1 by norm_num, zpow_add_one₀ two_ne_zero]
    ring
  rw [nearestDouble, hbinade, nearestNat_eq_zero hhalf,
    carried_of_lt (by decide) (by decide), dif_pos rfl]

/-- The double nearest to a large value has an exponent beyond that of the largest double. -/
theorem nearestDouble_large {v : ℚ} (h : 2 ^ (1024 : ℤ) ≤ v) :
    ∃ m e hm, nearestDouble v = .finite .positive m e hm ∧ 972 ≤ e := by
  have hv : 0 < v := lt_of_lt_of_le (zpow_pos two_pos _) h
  have hlog : 1024 ≤ Int.log 2 v := (Int.zpow_le_iff_le_log one_lt_two hv).1 (by simpa using h)
  have hbinade : binade v = Int.log 2 v - 52 := by
    rw [binade]
    omega
  have hpow : (0 : ℚ) < 2 ^ binade v := zpow_pos two_pos _
  have hlower : ((2 ^ 52 : Nat) : ℚ) ≤ v / 2 ^ binade v := by
    have hle : ((2 : Nat) : ℚ) ^ Int.log 2 v ≤ v := Int.zpow_log_le_self one_lt_two hv
    rw [le_div_iff₀ hpow, hbinade, show ((2 ^ 52 : Nat) : ℚ) = 2 ^ (52 : ℤ) by norm_num,
      ← zpow_add₀ two_ne_zero, add_sub_cancel]
    exact hle
  have hupper : v / 2 ^ binade v < ((2 ^ 53 : Nat) : ℚ) := by
    have hlt : v < ((2 : Nat) : ℚ) ^ (Int.log 2 v + 1) := Int.lt_zpow_succ_log_self one_lt_two v
    rw [div_lt_iff₀ hpow, hbinade, show ((2 ^ 53 : Nat) : ℚ) = 2 ^ (53 : ℤ) by norm_num,
      ← zpow_add₀ two_ne_zero, show (53 : ℤ) + (Int.log 2 v - 52) = Int.log 2 v + 1 by ring]
    exact hlt
  have hpos := le_nearestNat hlower
  rcases (nearestNat_le (le_trans (Nat.cast_nonneg _) hlower) hupper).lt_or_eq with hm | hm
  · rw [nearestDouble, carried_of_lt hm (by omega), dif_neg (by omega)]
    exact ⟨_, _, _, rfl, by omega⟩
  · rw [nearestDouble, hm, carried_carry (by omega)]
    exact ⟨_, _, _, rfl, by omega⟩

end RowQuery
