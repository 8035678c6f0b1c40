/-
  RowQuery — decimals `digits · 10 ^ exponent` and how they are written.

  * `Decimal.nearest` is the double nearest to a decimal, a tie going to the even
    significand, infinite above the largest double;
  * `Decimal.normalize` drops trailing zeros of the digits;
  * `DecimalLayout` says when a number is written positionally (`0.0125`, `100.0`)
    and how it is written otherwise (`1e+16`); `DecimalLayout.write` follows it.
-/

namespace RowQuery

/-- `digits · 10 ^ exponent`. -/
structure Decimal where
  digits : Nat
  exponent : Int
deriving DecidableEq, Repr

namespace Decimal

/-- The double nearest to a decimal, a tie going to the even significand. -/
def nearest (d : Decimal) : Float :=
  Float.ofScientific d.digits (decide (d.exponent < 0)) d.exponent.natAbs

/-- The same decimal without trailing zeros in its digits; zero has exponent 0. -/
def normalize (d : Decimal) : Decimal :=
  if h : d.digits = 0 then ⟨0, 0⟩
  else if d.digits % 10 = 0 then normalize ⟨d.digits / 10, d.exponent + 1⟩
  else d
termination_by d.digits
decreasing_by exact Nat.div_lt_self (Nat.pos_of_ne_zero h) (by decide)

/-- The decimal digits of a number, first digit first. -/
def digitChars (n : Nat) : List Char := Nat.toDigits 10 n

/-- How many decimal digits a number has. -/
def digitCount (n : Nat) : Nat := if n < 10 then 1 else digitCount (n / 10) + 1

end Decimal

/-! ## Writing -/

/-- How the digits of a number are laid out. -/
structure DecimalLayout where
  /-- The least exponent of the first digit for positional writing. -/
  positionalFrom : Int
  /-- The least exponent of the first digit that is too large for positional writing. -/
  positionalBelow : Int
  /-- The least number of digits of a written exponent. -/
  exponentWidth : Nat
  /-- Whether `1e+16` is written `1.0e+16`. -/
  pointInMantissa : Bool

namespace DecimalLayout

/-- The digits `ds` with the decimal point after the digit of exponent 0, where the
    first digit has exponent `e`; there is a digit on both sides of the point. -/
def positional (ds : List Char) (e : Int) : List Char :=
  if e < 0 then '0' :: '.' :: (List.replicate (-e - 1).toNat '0' ++ ds)
  else
    let whole := e.toNat + 1
    let fraction := ds.drop whole
    ds.take whole ++ List.replicate (whole - ds.length) '0' ++
      '.' :: (if fraction.isEmpty then ['0'] else fraction)

/-- The digits `ds` as a mantissa below ten and a signed exponent. -/
def scientific (l : DecimalLayout) (ds : List Char) (e : Int) : List Char :=
  let fraction := ds.drop 1
  let point :=
    if fraction.isEmpty then (if l.pointInMantissa then ['.', '0'] else []) else '.' :: fraction
  let power := Decimal.digitChars e.natAbs
  ds.take 1 ++ point ++ 'e' :: (if e < 0 then '-' else '+') ::
    (List.replicate (l.exponentWidth - power.length) '0' ++ power)

/-- A nonnegative decimal in the layout. -/
def write (l : DecimalLayout) (d : Decimal) : List Char :=
  let d := d.normalize
  let ds := Decimal.digitChars d.digits
  let e := d.exponent + ds.length - 1
  if l.positionalFrom ≤ e ∧ e < l.positionalBelow then positional ds e else l.scientific ds e

end DecimalLayout

end RowQuery
