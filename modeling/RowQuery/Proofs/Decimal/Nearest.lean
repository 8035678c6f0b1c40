/-
  RowQuery — the double nearest to a decimal.

  A decimal is read by one multiplication or division of doubles if it has few digits, and by
  one of exact numbers otherwise. Both end with the double nearest to its value, so decimals of
  one value are read as one double, and the value of a double is read as that double.

  * `Decimal.value`: the value of a decimal;
  * `mul_eq_nearestDouble`, `div_eq_nearestDouble`: products and quotients are nearest doubles;
  * `Decimal.nearest_eq`: so is what is read of a decimal;
  * `Decimal.nearest_of_value_eq`, `Decimal.nearest_of_float`: what follows.
-/
import RowQuery.Proofs.Decimal.Packed
import RowQuery.Proofs.Decimal.Rounding

namespace RowQuery

open Float.Model Float.Model.UnpackedFloat

/-! ## Products and quotients -/

theorem dyadic_pos {m : Nat} (hm : 0 < m) (e : ℤ) : (0 : ℚ) < m * 2 ^ e :=
  mul_pos (by exact_mod_cast hm) (zpow_pos two_pos e)

/-- A product is computed exactly if one of its factors has 53 bits. -/
theorem mul_eq_nearestDouble {m n : Nat} {e f : ℤ} (hm : 0 < m) (hn : 0 < n) (hbits : 2 ^ 52 ≤ m) :
    UnpackedFloat.mul Format.binary64 (positiveDouble m e hm) (positiveDouble n f hn) =
      nearestDouble (m * 2 ^ e * (n * 2 ^ f)) := by
  have hpos : (0 : ℚ) < m * 2 ^ e * (n * 2 ^ f) := mul_pos (dyadic_pos hm e) (dyadic_pos hn f)
  have hvalue : (m : ℚ) * 2 ^ e * (n * 2 ^ f) / 2 ^ (e + f) = ((m * n : Nat) : ℚ) := by
    rw [zpow_add₀ two_ne_zero]
    push_cast
    field_simp
  have hlog : 52 + (e + f) ≤ Int.log 2 ((m : ℚ) * 2 ^ e * (n * 2 ^ f)) := by
    refine (Int.zpow_le_iff_le_log one_lt_two hpos).1 ?_
    have hle : (2 : ℚ) ^ (52 : ℤ) ≤ ((m * n : Nat) : ℚ) := by
      exact_mod_cast hbits.trans (Nat.le_mul_of_pos_right m hn)
    rw [← hvalue, le_div_iff₀ (zpow_pos two_pos _), ← zpow_add₀ two_ne_zero] at hle
    exact hle
  refine roundWithAccuracy_eq (a := .exact) hpos hvalue ?_
  rw [binade]
  omega

/-- A quotient has no fewer bits than the logarithms tell. -/
theorem le_log_div {m n : Nat} {e f : ℤ} (hm : 0 < m) (hn : 0 < n) :
    totalExponent m e - totalExponent n f - 1 ≤ Int.log 2 ((m : ℚ) * 2 ^ e / (n * 2 ^ f)) := by
  have hn' := dyadic_pos hn f
  have hnum : (2 : ℚ) ^ ((m.log2 : ℤ) + e) ≤ m * 2 ^ e := by
    rw [zpow_add₀ two_ne_zero, zpow_natCast]
    refine mul_le_mul_of_nonneg_right ?_ (zpow_pos two_pos e).le
    exact_mod_cast Nat.log2_self_le hm.ne'
  have hden : (n : ℚ) * 2 ^ f ≤ 2 ^ ((n.log2 : ℤ) + 1 + f) := by
    rw [zpow_add₀ two_ne_zero, show ((n.log2 : ℤ) + 1) = ((n.log2 + 1 : Nat) : ℤ) by push_cast; rfl,
      zpow_natCast]
    refine mul_le_mul_of_nonneg_right ?_ (zpow_pos two_pos f).le
    exact_mod_cast Nat.lt_log2_self.le
  refine (Int.zpow_le_iff_le_log one_lt_two (div_pos (dyadic_pos hm e) hn')).1 ?_
  rw [le_div_iff₀ hn']
  calc ((2 : Nat) : ℚ) ^ (totalExponent m e - totalExponent n f - 1) * (n * 2 ^ f)
      ≤ (2 : ℚ) ^ (totalExponent m e - totalExponent n f - 1) * 2 ^ ((n.log2 : ℤ) + 1 + f) := by
        push_cast
        exact mul_le_mul_of_nonneg_left hden (zpow_pos two_pos _).le
    _ = 2 ^ ((m.log2 : ℤ) + e) := by
        rw [← zpow_add₀ two_ne_zero, totalExponent, totalExponent]
        congr 1
        ring
    _ ≤ m * 2 ^ e := hnum

theorem div_eq_nearestDouble {m n : Nat} {e f : ℤ} (hm : 0 < m) (hn : 0 < n) :
    UnpackedFloat.div Format.binary64 (positiveDouble m e hm) (positiveDouble n f hn) =
      nearestDouble (m * 2 ^ e / (n * 2 ^ f)) := by
  have hlog := le_log_div (e := e) (f := f) hm hn
  -- the quotient is computed to this exponent, which is not above that of the result
  obtain ⟨target, htarget⟩ : ∃ target, target =
    min (e - f) (Format.binary64.targetExponent (totalExponent m e - totalExponent n f)) := ⟨_, rfl⟩
  have hle : target ≤ binade (m * 2 ^ e / (n * 2 ^ f)) := by
    have hmax : Format.binary64.targetExponent (totalExponent m e - totalExponent n f) =
      max (totalExponent m e - totalExponent n f - (53 : Nat)) (-1074) := rfl
    rw [htarget, binade, hmax]
    omega
  have hvalue : ∀ k : Nat, e - f = target + k →
      (m : ℚ) * 2 ^ e / (n * 2 ^ f) / 2 ^ target = ((m <<< k : Nat) : ℚ) / n := by
    intro k hk
    have hn' : (n : ℚ) ≠ 0 := by exact_mod_cast hn.ne'
    rw [Nat.shiftLeft_eq, show e = f + (target + k) by omega, zpow_add₀ two_ne_zero,
      zpow_add₀ two_ne_zero, zpow_natCast]
    push_cast
    field_simp
  change roundWithAccuracy Format.binary64 .positive _ _ _ = _
  rw [← htarget]
  refine roundWithAccuracy_eq (div_pos (dyadic_pos hm e) (dyadic_pos hn f)) ?_ hle
  rw [hvalue (e - f - target).toNat (by omega)]
  exact measures_accuracyOfFraction _ hn

/-! ## Values -/

/-- The value of a magnitude. -/
def Dyadic64.value (d : Dyadic64) : ℚ := d.mantissa * 2 ^ d.exponent

/-- The value of a decimal. -/
def Decimal.value (d : Decimal) : ℚ := d.digits * 10 ^ d.exponent

theorem Dyadic64.den_pos (d : Dyadic64) : 0 < d.den := Nat.pow_pos two_pos

theorem Dyadic64.num_div_den (d : Dyadic64) : (d.num : ℚ) / d.den = d.value := by
  have hexponent : d.exponent = (d.exponent.toNat : ℤ) - ((-d.exponent).toNat : ℤ) := by omega
  rw [num, den, value]
  conv_rhs => rw [hexponent]
  rw [zpow_sub₀ two_ne_zero, zpow_natCast, zpow_natCast, Nat.pow_eq, Nat.pow_eq]
  push_cast
  rw [mul_div_assoc]

/-! ## Doubles of 53 bits -/

/-- A double of a positive value whose mantissa has 53 bits. -/
def Normal (x : Float) (v : ℚ) : Prop :=
  ∃ (m : Nat) (e : ℤ) (hm : 0 < m), 2 ^ 52 ≤ m ∧ v = m * 2 ^ e ∧
    x.toModel.unpack = positiveDouble m e hm

/-- The double nearest to a positive value, as it is stored. -/
def packedNearest (v : ℚ) : Float := Float.ofModel (Float.Model.pack (nearestDouble v))

theorem Normal.mul {x y : Float} {v w : ℚ} (hx : Normal x v) (hy : Normal y w) :
    x * y = packedNearest (v * w) := by
  obtain ⟨m, e, hm, hbits, rfl, hx⟩ := hx
  obtain ⟨n, f, hn, -, rfl, hy⟩ := hy
  change Float.ofModel (Float.Model.pack (UnpackedFloat.mul Format.binary64 x.toModel.unpack
    y.toModel.unpack)) = _
  rw [hx, hy, mul_eq_nearestDouble hm hn hbits]
  rfl

theorem Normal.div {x y : Float} {v w : ℚ} (hx : Normal x v) (hy : Normal y w) :
    x / y = packedNearest (v / w) := by
  obtain ⟨m, e, hm, -, rfl, hx⟩ := hx
  obtain ⟨n, f, hn, -, rfl, hy⟩ := hy
  change Float.ofModel (Float.Model.pack (UnpackedFloat.div Format.binary64 x.toModel.unpack
    y.toModel.unpack)) = _
  rw [hx, hy, div_eq_nearestDouble hm hn]
  rfl

/-- A number is that of its bits with others behind them, scaled down by these. -/
theorem shiftLeft_value (m k : Nat) : ((m <<< k : Nat) : ℚ) * 2 ^ (-k : ℤ) = m := by
  rw [Nat.shiftLeft_eq, zpow_neg, zpow_natCast]
  push_cast
  exact mul_inv_cancel_right₀ (pow_pos two_pos k).ne' _

/-- The bits that a number lacks are put behind it. -/
theorem shiftLeft_bounds {m k : Nat} (hm : 0 < m) (hbits : m.log2 + k = 52) :
    2 ^ 52 ≤ m <<< k ∧ m <<< k < 2 ^ 53 := by
  rw [Nat.shiftLeft_eq]
  constructor
  · rw [← hbits, pow_add]
    exact Nat.mul_le_mul_right _ (Nat.log2_self_le hm.ne')
  · rw [show 53 = m.log2 + 1 + k by omega, pow_add]
    exact Nat.mul_lt_mul_of_pos_right Nat.lt_log2_self (by positivity)

/-- A whole number is rounded to the nearest double. -/
theorem normalize_eq_nearestDouble {m k : Nat} (hm : 0 < m) (hbits : m.log2 + k = 52) :
    UnpackedFloat.normalize Format.binary64 (m : ℤ) 0 .positive = nearestDouble m := by
  have hcompare : compare (m : ℤ) 0 = .gt := Int.compare_eq_gt.2 (by omega)
  have htarget : Format.binary64.targetExponent (totalExponent m 0) = -k := by
    change max ((m.log2 : ℤ) + 1 + 0 - (53 : Nat)) (-1074) = -k
    omega
  rw [UnpackedFloat.normalize, hcompare]
  change UnpackedFloat.round Format.binary64 .positive m 0 = _
  rw [UnpackedFloat.round, htarget, decreaseExponent]
  simp only [zero_sub, neg_neg, Int.toNat_natCast]
  refine roundWithAccuracy_eq (a := .exact) (by exact_mod_cast hm) ?_ ?_
  · change (m : ℚ) / 2 ^ (-k : ℤ) = ((m <<< k : Nat) : ℚ)
    rw [div_eq_iff (zpow_pos two_pos _).ne']
    exact (shiftLeft_value m k).symm
  · rw [binade, log_eq (e := 0) hm.ne' (by simp) (by simp)]
    omega

/-- A number of at most 53 bits is a double. -/
theorem normal_toFloat {m : Nat} (hm : 0 < m) (hlt : m < 2 ^ 53) :
    Normal m.toUInt64.toFloat m := by
  have hlog := log2_lt hlt (by decide)
  obtain ⟨k, hbits⟩ : ∃ k, m.log2 + k = 52 := ⟨52 - m.log2, by omega⟩
  obtain ⟨hlower, hupper⟩ := shiftLeft_bounds hm hbits
  have hpos : 0 < m <<< k := lt_of_lt_of_le (by decide) hlower
  have hexact := nearestDouble_exact hpos hupper (e := -k) (by omega) (Or.inl hlower)
  rw [shiftLeft_value] at hexact
  have hword : m.toUInt64.toNat = m := by
    have hsize : m < 2 ^ 64 := by omega
    exact Nat.mod_eq_of_lt hsize
  refine ⟨m <<< k, -k, hpos, hlower, (shiftLeft_value m k).symm, ?_⟩
  change (Float.Model.pack (UnpackedFloat.normalize Format.binary64 (m.toUInt64.toNat : ℤ) 0
    .positive)).unpack = _
  rw [hword, normalize_eq_nearestDouble hm hbits, hexact]
  exact unpack_pack hpos hlower hupper (by omega) (by omega)

theorem powersOfTen_bits : ∀ k : Fin Float.exactlyRepresentablePowersOfTen.size,
    let x := Float.exactlyRepresentablePowersOfTen[k.val]
    x.isFinite = true ∧ isSigned x = false ∧ 2 ^ 52 ≤ (Dyadic64.ofFloat x).mantissa ∧
      (Dyadic64.ofFloat x).num = 10 ^ k.val * (Dyadic64.ofFloat x).den := by
  decide +kernel

/-- The powers of ten that are doubles. -/
theorem normal_powerOfTen {k : Nat} (hk : k < Float.exactlyRepresentablePowersOfTen.size) :
    Normal Float.exactlyRepresentablePowersOfTen[k] (10 ^ k) := by
  obtain ⟨hfinite, hsign, hbits, hvalue⟩ := powersOfTen_bits ⟨k, hk⟩
  generalize Float.exactlyRepresentablePowersOfTen[k] = x at hfinite hsign hbits hvalue ⊢
  obtain ⟨hupper, hmin, -, hmax⟩ := ofFloat_bounds hfinite hsign
  have hpos : 0 < (Dyadic64.ofFloat x).mantissa := lt_of_lt_of_le (by decide) hbits
  have hunpack := congrArg (fun y : Float => y.toModel.unpack) (pack_ofFloat hfinite hsign hpos)
  refine ⟨_, _, hpos, hbits, ?_, hunpack.symm.trans (unpack_pack hpos hbits hupper hmin hmax)⟩
  have hden : ((Dyadic64.ofFloat x).den : ℚ) ≠ 0 := by exact_mod_cast (Dyadic64.den_pos _).ne'
  rw [← Dyadic64.value, ← Dyadic64.num_div_den, hvalue]
  push_cast
  rw [mul_div_cancel_right₀ _ hden]

/-! ## What is read of a decimal -/

namespace Decimal

variable {d : Decimal}

/-- A decimal of few digits is one product or quotient of doubles. -/
theorem nearest_eq_of_few {m e : Nat} (hm : 0 < m) (hlt : m < 2 ^ 53) (he : e ≤ 22)
    (negative : Bool) :
    Float.ofScientific m negative e =
      packedNearest (if negative = true then m / 10 ^ e else m * 10 ^ e) := by
  have hx := normal_toFloat hm hlt
  have hy := normal_powerOfTen (k := e) (Nat.lt_succ_of_le he)
  rw [Float.ofScientific, dif_pos ⟨hlt, he⟩]
  cases negative with
  | true => exact hx.div hy
  | false => exact hx.mul hy

/-- A decimal with such an exponent is too large for a double. -/
theorem le_of_exponent {m : Nat} {e : ℤ} (hm : 0 < m) (he : 2048 < e) :
    (2 : ℚ) ^ (1024 : ℤ) ≤ m * 10 ^ e := by
  have hone : (1 : ℚ) ≤ m := by exact_mod_cast hm
  calc (2 : ℚ) ^ (1024 : ℤ) ≤ 2 ^ e := zpow_le_zpow_right₀ one_le_two (by omega)
    _ ≤ 10 ^ e := zpow_le_zpow_left₀ (by omega) (by norm_num) (by norm_num)
    _ ≤ m * 10 ^ e := le_mul_of_one_le_left (zpow_pos (by norm_num) _).le hone

/-- A decimal with such an exponent is nearer to zero than to any double. -/
theorem lt_of_exponent {m : Nat} {e : ℤ} (he : e < -(2048 + (m.log2 : ℤ))) :
    (m : ℚ) * 10 ^ e < 2 ^ (-1075 : ℤ) := by
  have hbits : (m : ℚ) < 2 ^ ((m.log2 : ℤ) + 1) := by
    exact_mod_cast Nat.lt_log2_self
  have hpower : (10 : ℚ) ^ e ≤ 2 ^ e := by
    obtain ⟨k, rfl⟩ : ∃ k : Nat, e = -k := ⟨(-e).toNat, by omega⟩
    rw [zpow_neg, zpow_neg, zpow_natCast, zpow_natCast]
    exact inv_anti₀ (by positivity) (pow_le_pow_left₀ two_pos.le (by norm_num) k)
  calc (m : ℚ) * 10 ^ e ≤ m * 2 ^ e := by gcongr
    _ < 2 ^ ((m.log2 : ℤ) + 1) * 2 ^ e := mul_lt_mul_of_pos_right hbits (zpow_pos two_pos e)
    _ = 2 ^ ((m.log2 : ℤ) + 1 + e) := (zpow_add₀ two_ne_zero _ _).symm
    _ ≤ 2 ^ (-1075 : ℤ) := zpow_le_zpow_right₀ one_le_two (by omega)

/-- Any other one is computed with all its digits, if it is not far too large or too small. -/
theorem pack_ofScientific {m : Nat} (hm : 0 < m) (e : ℤ) :
    UnpackedFloat.pack Format.binary64 (UnpackedFloat.ofScientific Format.binary64 m e) =
      UnpackedFloat.pack Format.binary64 (nearestDouble (m * 10 ^ e)) := by
  have hvalue : (0 : ℚ) < m * 10 ^ e := by positivity
  rw [UnpackedFloat.ofScientific, dif_neg hm.ne']
  change UnpackedFloat.pack Format.binary64 (if 2048 < e then .infinity .positive
    else if e < -(2048 + (m.log2 : ℤ)) then .zero .positive else if 0 ≤ e then _ else _) = _
  split_ifs with hlarge hsmall hwhole
  · obtain ⟨n, f, hn, hnearest, hf⟩ := nearestDouble_large (le_of_exponent hm hlarge)
    rw [hnearest, pack_large hn hf]
    rfl
  · rw [nearestDouble_small hvalue (lt_of_exponent hsmall)]
  · have hbits : 2 ^ 52 ≤ m <<< 53 := by
      rw [Nat.shiftLeft_eq]
      omega
    have hpos : 0 < m <<< 53 := lt_of_lt_of_le (by decide) hbits
    refine congrArg (UnpackedFloat.pack Format.binary64) ?_
    refine (mul_eq_nearestDouble hpos (by positivity) hbits).trans (congrArg nearestDouble ?_)
    change ((m <<< 53 : Nat) : ℚ) * 2 ^ (-((53 : Nat) : ℤ)) * _ = _
    rw [shiftLeft_value, zpow_zero, mul_one, Nat.cast_pow, ← zpow_natCast,
      Int.toNat_of_nonneg hwhole]
    rfl
  · refine congrArg (UnpackedFloat.pack Format.binary64) ?_
    refine (div_eq_nearestDouble hm (by positivity)).trans (congrArg nearestDouble ?_)
    rw [zpow_zero, mul_one, mul_one, Nat.cast_pow, ← zpow_natCast,
      Int.toNat_of_nonneg (by omega), zpow_neg, div_inv_eq_mul]
    rfl

/-- **What is read of a decimal is the double nearest to its value.** -/
theorem nearest_eq (hd : d.digits ≠ 0) : d.nearest = packedNearest d.value := by
  have hpos := Nat.pos_of_ne_zero hd
  by_cases hfew : d.digits < 2 ^ 53 ∧ d.exponent.natAbs ≤ 22
  · rw [nearest, nearest_eq_of_few hpos hfew.1 hfew.2, value]
    congr 1
    by_cases hneg : d.exponent < 0
    · rw [if_pos (decide_eq_true hneg), ← zpow_natCast, div_eq_mul_inv, ← zpow_neg,
        show -(d.exponent.natAbs : ℤ) = d.exponent by omega]
    · rw [if_neg (by simpa using hneg), ← zpow_natCast,
        show (d.exponent.natAbs : ℤ) = d.exponent by omega]
  · have hexponent : (if decide (d.exponent < 0) = true then Int.negOfNat d.exponent.natAbs
        else Int.ofNat d.exponent.natAbs) = d.exponent := by
      by_cases hneg : d.exponent < 0
      · rw [if_pos (decide_eq_true hneg), Int.negOfNat_eq, Int.ofNat_eq_natCast]
        omega
      · rw [if_neg (by simpa using hneg), Int.ofNat_eq_natCast]
        omega
    rw [nearest, Float.ofScientific, dif_neg hfew]
    simp only [hexponent]
    apply float_ext
    exact congrArg BitVec.toNat (pack_ofScientific hpos d.exponent)

theorem ofScientific_zero_few : ∀ (negative : Bool) (k : Fin 23),
    Float.ofScientific 0 negative k = Float.ofBits 0 := by
  decide +kernel

theorem nearest_of_digits_eq_zero (hd : d.digits = 0) : d.nearest = Float.ofBits 0 := by
  rw [nearest, hd]
  by_cases hfew : d.exponent.natAbs < 23
  · exact ofScientific_zero_few _ ⟨_, hfew⟩
  · rw [Float.ofScientific, dif_neg (by omega)]
    rfl

theorem value_eq_zero_iff : d.value = 0 ↔ d.digits = 0 := by
  have hten : (10 : ℚ) ^ d.exponent ≠ 0 := (zpow_pos (by norm_num) _).ne'
  simp [value, hten]

/-- **Decimals of one value are read as one double.** -/
theorem nearest_of_value_eq {d' : Decimal} (h : d.value = d'.value) : d.nearest = d'.nearest := by
  by_cases hd : d.digits = 0
  · have hd' : d'.digits = 0 := value_eq_zero_iff.1 (h ▸ value_eq_zero_iff.2 hd)
    rw [nearest_of_digits_eq_zero hd, nearest_of_digits_eq_zero hd']
  · have hd' : d'.digits ≠ 0 :=
      fun hzero => hd (value_eq_zero_iff.1 (h ▸ value_eq_zero_iff.2 hzero))
    rw [nearest_eq hd, nearest_eq hd', h]

/-- **A decimal of the value of a double is read as that double.** -/
theorem nearest_of_float {x : Float} (hx : x.isFinite = true) (hsign : isSigned x = false)
    (hm : (Dyadic64.ofFloat x).mantissa ≠ 0) (h : d.value = (Dyadic64.ofFloat x).value) :
    d.nearest = x := by
  have hpos := Nat.pos_of_ne_zero hm
  obtain ⟨hlt, hmin, hnormal, -⟩ := ofFloat_bounds hx hsign
  have hvalue : 0 < d.value := h ▸ dyadic_pos hpos _
  have hd : d.digits ≠ 0 := fun hzero => hvalue.ne' (value_eq_zero_iff.2 hzero)
  rw [nearest_eq hd, h, packedNearest, Dyadic64.value, nearestDouble_exact hpos hlt hmin hnormal]
  exact pack_ofFloat hx hsign hpos

end Decimal

end RowQuery
