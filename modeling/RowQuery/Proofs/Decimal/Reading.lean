/-
  RowQuery — doubles as a reader of JSON makes them.

  The reader takes the digits of a number into a word and scales the double of that word by a
  power of ten. Both steps are exact if the digits and the power are small, and the nearest double
  is read then; otherwise it may be another one. So an integer is read back from its text, and so
  is a double of few digits, but not every double.

  * `Spelling.Few`: few digits and a small power of ten;
  * `Spelling.read_of_few`: the nearest double is read of such a spelling;
  * `Number.ReadsBack`: a number is the value of its text; `Number.readsBack_int`,
    `Number.readsBack_float_iff`, `Number.readsBack_of_few`: which numbers are.
-/
import RowQuery.Proofs.Decimal.Writing

namespace RowQuery

/-! ## Spellings of few digits -/

theorem digitsValue_cons (n : Nat) (d : Char) (ds : List Char) :
    digitsValue n (d :: ds) = digitsValue (digitsValue n [d]) ds := digitsValue_append n [d] ds

/-- Digits make a number no smaller. -/
theorem le_digitsValue (n : Nat) (ds : List Char) : n ≤ digitsValue n ds := by
  induction ds generalizing n with
  | nil => exact Nat.le_refl n
  | cons d ds ih =>
    have hfirst : n ≤ digitsValue n [d] := by
      change n ≤ n * 10 + (d.toNat - '0'.toNat)
      omega
    exact hfirst.trans (ih _)

/-- Digits whose value is a word are all taken. -/
theorem takeDigits_eq {n : Nat} {ds : List Char} (h : digitsValue n ds < UInt64.size) :
    takeDigits n ds = (digitsValue n ds, 0) := by
  induction ds generalizing n with
  | nil => rfl
  | cons d ds ih =>
    rw [digitsValue_cons] at h
    have hfirst := (le_digitsValue (digitsValue n [d]) ds).trans_lt h
    rw [takeDigits, if_pos hfirst, ih h]
    rfl

/-- The powers of ten that are doubles are those that a decimal of few digits is made with. -/
theorem nearest_powerOfTen : ∀ k : Fin Float.exactlyRepresentablePowersOfTen.size,
    Float.exactlyRepresentablePowersOfTen[k.val]? = some (Decimal.nearest ⟨1, (k.val : Int)⟩) := by
  decide +kernel

/-- A word of few bits is scaled to the nearest double of the decimal. -/
theorem scaled_eq_nearest {m : Nat} {e : Int} (hm : m < 2 ^ 53) (he : e.natAbs ≤ 22) :
    scaled (UInt64.ofNat m).toFloat e = Decimal.nearest ⟨m, e⟩ := by
  have hsize : e.natAbs < Float.exactlyRepresentablePowersOfTen.size := Nat.lt_succ_of_le he
  obtain ⟨_, hpower⟩ := Array.getElem?_eq_some_iff.1 (nearest_powerOfTen ⟨e.natAbs, hsize⟩)
  have hsmall : e.natAbs ≤ maxPower := he.trans (by decide)
  have hnearest : Decimal.nearest ⟨m, e⟩ =
      if decide (e < 0) = true then
        m.toUInt64.toFloat / Float.exactlyRepresentablePowersOfTen[e.natAbs]
      else m.toUInt64.toFloat * Float.exactlyRepresentablePowersOfTen[e.natAbs] := by
    rw [Decimal.nearest, Float.ofScientific, dif_pos ⟨hm, he⟩]
  rw [scaled, if_pos hsmall, hnearest]
  dsimp only at hpower ⊢
  rw [hpower]
  by_cases hneg : e < 0
  · rw [if_neg (by omega), if_pos (decide_eq_true hneg)]
  · rw [if_pos (by omega), if_neg (by simpa using hneg)]

namespace Spelling

/-- The digits of a spelling are a double, and so is its power of ten. -/
def Few (s : Spelling) : Prop := s.value.digits < 2 ^ 53 ∧ s.value.exponent.natAbs ≤ 22

instance (s : Spelling) : Decidable s.Few := inferInstanceAs (Decidable (_ ∧ _))

/-- **A spelling of few digits is read as the nearest double.** -/
theorem read_of_few {s : Spelling} (h : s.Few) : s.read = s.value.nearest := by
  obtain ⟨hdigits, hexponent⟩ := h
  simp only [value, digitsValue_append] at hdigits hexponent
  have hall : digitsValue (digitsValue 0 s.digits) s.places < UInt64.size :=
    hdigits.trans (by decide)
  have hwhole := (le_digitsValue (digitsValue 0 s.digits) s.places).trans_lt hall
  have hpower : s.powerValue + (0 : Nat) - (s.places.length - 0 : Nat) =
      s.powerValue - s.places.length := by omega
  rw [read, takeDigits_eq hwhole]
  dsimp only
  rw [takeDigits_eq hall]
  dsimp only
  rw [hpower, scaled_eq_nearest hdigits hexponent, value, digitsValue_append]

end Spelling

/-! ## Numbers -/

namespace Number

/-- **A number is the value of its text.** -/
def ReadsBack (n : Number) : Prop := ofLiteral? n.literal = some n

instance (n : Number) : Decidable n.ReadsBack := inferInstanceAs (Decidable (_ = _))

/-- An integer is. -/
theorem readsBack_int (n : Int) (inRange : minInt64 ≤ n ∧ n ≤ maxUInt64) :
    ReadsBack (.int n inRange) := by
  have hvalue : digitsValue 0 (Decimal.digitChars n.natAbs ++ []) = n.natAbs := by
    rw [List.append_nil, Decimal.digitsValue_digitChars]
  have hsigned : (if decide (n < 0) = true then -(n.natAbs : Int) else n.natAbs) = n := by
    by_cases hn : n < 0
    · rw [if_pos (decide_eq_true hn)]
      omega
    · rw [if_neg (by simpa using hn)]
      omega
  have hnegative : ¬ (decide (n < 0) = true ∧ n = 0) := by
    rw [decide_eq_true_iff]
    omega
  simp only [ReadsBack, ofLiteral?, literal, isNegative, spelling, Spelling.value, Spelling.places,
    Option.getD_none, hvalue, hsigned]
  exact dif_pos ⟨rfl, hnegative, inRange⟩

variable {x : Float} (hx : x.isFinite = true)

/-- A double is the value of its text if that is what is read of it. -/
theorem readsBack_float_iff : ReadsBack (.float x hx) ↔ (literal (.float x hx)).read = x := by
  have hwhole : (literal (.float x hx)).whole = false := layout.whole_spelling _
  rw [ReadsBack, ofLiteral?, dif_neg fun h => Bool.noConfusion (hwhole.symm.trans h.1), ofFloat?]
  constructor
  · intro h
    split at h
    · exact (Number.float.injEq .. ▸ Option.some.inj h :)
    · cases h
  · intro h
    simp only [h]
    exact dif_pos hx

/-- **A double of few digits is the value of its text.** -/
theorem readsBack_of_few (h : (spelling (.float x hx)).Few) : ReadsBack (.float x hx) := by
  rw [readsBack_float_iff, literal, Literal.read, Spelling.read_of_few h, isNegative, spelling,
    Decimal.nearest_of_value_eq (layout.value_spelling _), nearest_shortest_magnitude hx, magnitude]
  split
  · exact neg_neg_float hx
  · rfl

end Number

end RowQuery
