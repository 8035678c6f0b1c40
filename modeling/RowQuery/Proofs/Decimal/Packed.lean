/-
  RowQuery — the bits of doubles.

  A double is packed into a sign, an exponent and a mantissa. The fields are numbers that are
  put together by arithmetic, so what is packed and unpacked again is the same.

  * `pack_normal`, `pack_subnormal`, `pack_large`: how positive doubles are packed;
  * `unpack_pack`: a normal double is unpacked as it was packed;
  * `pack_ofFloat`: a finite double is packed from its magnitude;
  * `toBits_neg`: the negative of a double differs from it by the sign alone.
-/
import Mathlib
import RowQuery.Proofs.Json.Number

namespace RowQuery

open Float.Model Float.Model.UnpackedFloat

/-- A positive double as it is computed with. -/
abbrev positiveDouble (m : Nat) (e : ℤ) (hm : 0 < m) : UnpackedFloat := .finite .positive m e hm

/-! ## Packing -/

theorem toNat_packComponents (s : Sign) (exponent : BitVec 11) (mantissa : BitVec 52) :
    (packComponents Format.binary64 s exponent mantissa).toNat =
      s.toBitVec.toNat * 2 ^ 63 + exponent.toNat * 2 ^ 52 + mantissa.toNat := by
  have hexponent : exponent.toNat < 2 ^ 11 := exponent.isLt
  have hmantissa : mantissa.toNat < 2 ^ 52 := mantissa.isLt
  change (s.toBitVec ++ exponent ++ mantissa).toNat = _
  rw [BitVec.toNat_append, BitVec.toNat_append, ← Nat.shiftLeft_add_eq_or_of_lt hmantissa,
    ← Nat.shiftLeft_add_eq_or_of_lt hexponent, Nat.shiftLeft_eq, Nat.shiftLeft_eq]
  omega

/-- The exponent field of a double. -/
def exponentField (e : ℤ) : BitVec 11 := BitVec.ofNat 11 (e + 1075).toNat

theorem pack_normal {m : Nat} {e : ℤ} (hm : 0 < m) (hle : 2 ^ 52 ≤ m) (hlt : m < 2 ^ 53)
    (he : e ≤ 971) :
    UnpackedFloat.pack Format.binary64 (positiveDouble m e hm) =
      packComponents Format.binary64 .positive (exponentField e) (BitVec.ofNat 52 m) := by
  have hlog : m.log2 + 1 = 53 := by
    have hlower : 52 ≤ m.log2 := (Nat.le_log2 hm.ne').2 hle
    have hupper := log2_lt hlt (by decide)
    omega
  have hbiased : e + ((1023 : Nat) : ℤ) + ((52 : Nat) : ℤ) = e + 1075 := by
    push_cast
    ring
  change (if 2048 ≤ (e + ((1023 : Nat) : ℤ) + ((52 : Nat) : ℤ)).toNat + 1 then _ else
    if m.log2 + 1 = 53 then packComponents Format.binary64 .positive
      (BitVec.ofNat 11 (e + ((1023 : Nat) : ℤ) + ((52 : Nat) : ℤ)).toNat) (BitVec.ofNat 52 m)
    else _) = _
  rw [if_neg (by omega), if_pos hlog, hbiased]
  rfl

theorem pack_subnormal {m : Nat} (hm : 0 < m) (hlt : m < 2 ^ 52) :
    UnpackedFloat.pack Format.binary64 (positiveDouble m (-1074) hm) =
      packComponents Format.binary64 .positive 0 (BitVec.ofNat 52 m) := by
  have hlog : ¬ m.log2 + 1 = 53 := by
    have hupper := log2_lt hlt (by decide)
    omega
  change (if 2048 ≤ (-1074 + ((1023 : Nat) : ℤ) + ((52 : Nat) : ℤ)).toNat + 1 then
      packedInfinity Format.binary64 .positive
    else if m.log2 + 1 = 53 then packComponents Format.binary64 .positive
      (BitVec.ofNat 11 (-1074 + ((1023 : Nat) : ℤ) + ((52 : Nat) : ℤ)).toNat) (BitVec.ofNat 52 m)
    else packComponents Format.binary64 .positive 0 (BitVec.ofNat 52 m)) = _
  rw [if_neg (by decide), if_neg hlog]

theorem pack_large {m : Nat} {e : ℤ} (hm : 0 < m) (he : 972 ≤ e) :
    UnpackedFloat.pack Format.binary64 (positiveDouble m e hm) =
      packedInfinity Format.binary64 .positive := by
  change (if 2048 ≤ (e + ((1023 : Nat) : ℤ) + ((52 : Nat) : ℤ)).toNat + 1 then _ else _) = _
  rw [if_pos (by omega)]

/-! The fields of a double, by the number of its bits. -/

theorem toNat_unpackExponent (bits : BitVec Format.binary64.numBits) :
    (unpackExponent bits).toNat = bits.toNat / 2 ^ 52 % 2 ^ 11 := by
  simp [unpackExponent, BitVec.extractLsb, Nat.shiftRight_eq_div_pow]

theorem toNat_exponentField {e : ℤ} (he : -1074 ≤ e) (he' : e ≤ 971) :
    ((exponentField e).toNat : ℤ) = e + 1075 := by
  rw [exponentField, BitVec.toNat_ofNat]
  omega

/-- A normal double is unpacked as it was packed. -/
theorem unpack_pack {m : Nat} {e : ℤ} (hm : 0 < m) (hle : 2 ^ 52 ≤ m) (hlt : m < 2 ^ 53)
    (he : -1074 ≤ e) (he' : e ≤ 971) :
    (Float.Model.pack (positiveDouble m e hm)).unpack = positiveDouble m e hm := by
  have hfield := toNat_exponentField he he'
  have hfinite : exponentField e ≠ -1#11 := by
    intro h
    rw [h] at hfield
    change (2047 : ℤ) = _ at hfield
    omega
  have hnonzero : exponentField e ≠ 0#11 := by
    intro h
    rw [h] at hfield
    change (0 : ℤ) = _ at hfield
    omega
  have hmantissa : (1#1 ++ BitVec.ofNat 52 m).toNat = m := by
    rw [BitVec.toNat_append, ← Nat.shiftLeft_add_eq_or_of_lt (BitVec.ofNat 52 m).isLt,
      BitVec.toNat_ofNat]
    change 1 * 2 ^ 52 + m % 2 ^ 52 = m
    omega
  have hexponent : ((exponentField e).toNat : ℤ) - (((1023 : Nat) : ℤ) + ((52 : Nat) : ℤ)) = e := by
    push_cast
    omega
  change UnpackedFloat.unpack Format.binary64 (UnpackedFloat.pack Format.binary64 _) = _
  rw [pack_normal hm hle hlt he', UnpackedFloat.unpack]
  simp only [unpackExponent_packComponents, unpackMantissa_packComponents,
    unpackSign_packComponents, Sign.ofBitVec_toBitVec]
  rw [if_neg hfinite, if_neg hnonzero]
  simp only [hmantissa]
  change positiveDouble m (((exponentField e).toNat : ℤ) - (((1023 : Nat) : ℤ) + ((52 : Nat) : ℤ)))
    hm = _
  rw [hexponent]

/-! ## Finite doubles -/

/-- The bits of a double. -/
def bitsOf (x : Float) : BitVec Format.binary64.numBits := x.toBits.toBitVec

theorem float_ext {x y : Float} (h : x.toBits.toNat = y.toBits.toNat) : x = y :=
  Float.toBits_inj.1 (UInt64.toNat_inj.1 h)

/-- A double is finite if not all bits of its exponent are set. -/
theorem isFinite_iff {x : Float} :
    x.isFinite = true ↔ x.toBits.toNat / 2 ^ 52 % 2 ^ 11 ≠ 2047 := by
  have hfield : (unpackExponent (bitsOf x)).toNat = x.toBits.toNat / 2 ^ 52 % 2 ^ 11 :=
    toNat_unpackExponent (bitsOf x)
  rw [← hfield]
  constructor
  · intro hx heq
    change (UnpackedFloat.unpack Format.binary64 (bitsOf x)).isFinite = true at hx
    have hall : unpackExponent (bitsOf x) = -1#_ := BitVec.eq_of_toNat_eq heq
    rw [UnpackedFloat.unpack] at hx
    simp only [hall, if_true] at hx
    split at hx <;> cases hx
  · exact fun hne => isFinite_unpack fun heq => hne (congrArg BitVec.toNat heq)

/-- The bits of a double that is not negative and finite. -/
theorem toBits_lt {x : Float} (hx : x.isFinite = true) (hsign : isSigned x = false) :
    x.toBits.toNat < 2047 * 2 ^ 52 := by
  have hlt : x.toBits.toNat < 0x8000000000000000 := Nat.not_le.1 (of_decide_eq_false hsign)
  have hne := isFinite_iff.1 hx
  omega

/-- **The magnitude of a finite double** has at most 53 bits, all of them if it is normal. -/
theorem ofFloat_bounds {x : Float} (hx : x.isFinite = true) (hsign : isSigned x = false) :
    (Dyadic64.ofFloat x).mantissa < 2 ^ 53 ∧ -1074 ≤ (Dyadic64.ofFloat x).exponent ∧
      (2 ^ 52 ≤ (Dyadic64.ofFloat x).mantissa ∨ (Dyadic64.ofFloat x).exponent = -1074) ∧
      (Dyadic64.ofFloat x).exponent ≤ 971 := by
  have hbits := toBits_lt hx hsign
  simp only [Dyadic64.ofFloat, Int.ofNat_eq_natCast]
  split
  · exact ⟨by dsimp only; omega, le_refl _, Or.inr rfl, by dsimp only; omega⟩
  · refine ⟨?_, ?_, ?_, ?_⟩ <;> dsimp only <;> omega

/-- **A finite double is packed from its magnitude.** -/
theorem pack_ofFloat {x : Float} (hx : x.isFinite = true) (hsign : isSigned x = false)
    (hm : 0 < (Dyadic64.ofFloat x).mantissa) :
    Float.ofModel (Float.Model.pack (positiveDouble (Dyadic64.ofFloat x).mantissa
      (Dyadic64.ofFloat x).exponent hm)) = x := by
  have hbits := toBits_lt hx hsign
  have hsign : (Sign.toBitVec .positive).toNat = 0 := rfl
  apply float_ext
  change (UnpackedFloat.pack Format.binary64 (positiveDouble _ _ hm)).toNat = x.toBits.toNat
  by_cases hpower : x.toBits.toNat / 0x10000000000000 % 0x800 = 0
  · have hd : Dyadic64.ofFloat x = ⟨x.toBits.toNat % 0x10000000000000, -1074⟩ := if_pos hpower
    simp only [hd] at hm ⊢
    rw [pack_subnormal hm (by omega), toNat_packComponents, hsign, BitVec.toNat_ofNat]
    change 0 * 2 ^ 63 + 0 * 2 ^ 52 + _ = _
    omega
  · have hd : Dyadic64.ofFloat x = ⟨x.toBits.toNat % 0x10000000000000 + 0x10000000000000,
        Int.ofNat (x.toBits.toNat / 0x10000000000000 % 0x800) - 1075⟩ := if_neg hpower
    simp only [hd, Int.ofNat_eq_natCast] at hm ⊢
    rw [pack_normal hm (by omega) (by omega) (by omega), toNat_packComponents, hsign,
      BitVec.toNat_ofNat, exponentField, BitVec.toNat_ofNat]
    omega

/-! ## Negatives -/

theorem pack_neg {u : UnpackedFloat} (h : u ≠ .notANumber) :
    ∃ (s : Sign) (exponent : BitVec 11) (mantissa : BitVec 52),
      UnpackedFloat.pack Format.binary64 u =
        packComponents Format.binary64 s exponent mantissa ∧
      UnpackedFloat.pack Format.binary64 u.neg =
        packComponents Format.binary64 (-s) exponent mantissa := by
  cases u with
  | notANumber => exact absurd rfl h
  | infinity s => exact ⟨s, _, _, rfl, rfl⟩
  | zero s => exact ⟨s, _, _, rfl, rfl⟩
  | finite s m e hm =>
    simp only [UnpackedFloat.neg, UnpackedFloat.pack]
    split_ifs
    · exact ⟨s, _, _, rfl, rfl⟩
    · exact ⟨s, _, _, rfl, rfl⟩
    · exact ⟨s, _, _, rfl, rfl⟩

/-- **The negative of a finite double** differs from it by the sign alone. -/
theorem toBits_neg {x : Float} (hx : x.isFinite = true) :
    isSigned (-x) = !isSigned x ∧
      (-x).toBits.toNat % 2 ^ 63 = x.toBits.toNat % 2 ^ 63 := by
  have hnumber : x.toModel.unpack ≠ .notANumber := by
    intro h
    change x.toModel.unpack.isFinite = true at hx
    rw [h] at hx
    cases hx
  obtain ⟨s, exponent, mantissa, hpack, hneg⟩ := pack_neg hnumber
  have hexponent : exponent.toNat < 2 ^ 11 := exponent.isLt
  have hmantissa : mantissa.toNat < 2 ^ 52 := mantissa.isLt
  have hbits : x.toBits.toNat = (packComponents Format.binary64 s exponent mantissa).toNat := by
    rw [← hpack]
    exact congrArg BitVec.toNat (pack_unpack_of_valid x.toModel.valid).symm
  have hbits' : (-x).toBits.toNat = (packComponents Format.binary64 (-s) exponent mantissa).toNat :=
    congrArg BitVec.toNat hneg
  have hflip : s.toBitVec.toNat + (-s).toBitVec.toNat = 1 := by
    cases s <;> rfl
  rw [toNat_packComponents] at hbits hbits'
  refine ⟨?_, by omega⟩
  rw [isSigned, isSigned, Bool.eq_not, ne_eq, decide_eq_decide]
  omega

theorem isFinite_neg {x : Float} (hx : x.isFinite = true) : (-x).isFinite = true := by
  have hbits := (toBits_neg hx).2
  have hne := isFinite_iff.1 hx
  rw [isFinite_iff]
  omega

theorem neg_neg_float {x : Float} (hx : x.isFinite = true) : - -x = x := by
  obtain ⟨hsign, hbits⟩ := toBits_neg hx
  obtain ⟨hsign', hbits'⟩ := toBits_neg (isFinite_neg hx)
  rw [hsign, Bool.not_not] at hsign'
  have hlt := UInt64.toNat_lt x.toBits
  have hlt' := UInt64.toNat_lt (- -x).toBits
  rw [isSigned, isSigned, decide_eq_decide] at hsign'
  apply float_ext
  omega

end RowQuery
