/-
  RowQuery — the shortest decimal that reads back as a given double.

  A double's magnitude is `m · 2 ^ q` (`Dyadic64`), kept as a ratio of natural
  numbers. For one digit, two digits, and so on, its two neighbours on the grid of
  decimals with that many digits are tried: the first grid with a neighbour that
  reads back wins, of two such neighbours the nearer, of two equally near the one
  with the even last digit (`shortest`).

  * `rounded n x` is the decimal of `n` digits nearest to `x`.
-/
import RowQuery.Decimal.Basic

namespace RowQuery

/-- `mantissa · 2 ^ exponent`. -/
structure Dyadic64 where
  mantissa : Nat
  exponent : Int
deriving DecidableEq, Repr

namespace Dyadic64

/-- The magnitude of a finite double, from the fields of its bits. -/
def ofFloat (x : Float) : Dyadic64 :=
  let bits := x.toBits.toNat
  let fraction := bits % 0x10000000000000
  let power : Nat := bits / 0x10000000000000 % 0x800
  if power = 0 then ⟨fraction, -1074⟩ else ⟨fraction + 0x10000000000000, Int.ofNat power - 1075⟩

/-- The numerator of the value as a ratio of natural numbers. -/
def num (d : Dyadic64) : Nat := d.mantissa * Nat.pow 2 d.exponent.toNat

/-- The denominator of the value as a ratio of natural numbers. -/
def den (d : Dyadic64) : Nat := Nat.pow 2 (-d.exponent).toNat

/-- All the decimal digits of the value. -/
def exact (d : Dyadic64) : Decimal :=
  ⟨d.num * Nat.pow 5 (-d.exponent).toNat, -(((-d.exponent).toNat : Nat) : Int)⟩

/-- The exponent of the first decimal digit of the (positive) value. -/
def leading (d : Dyadic64) : Int :=
  if d.den ≤ d.num then (Decimal.digitCount (d.num / d.den) : Int) - 1
  else -(Decimal.digitCount ((d.den + d.num - 1) / d.num - 1) : Int)

end Dyadic64

/-- Whether a double is negative, counting the negative zero. -/
def isSigned (x : Float) : Bool := decide (0x8000000000000000 ≤ x.toBits.toNat)

/-- The magnitude of a double. -/
def magnitude (x : Float) : Float := if isSigned x then -x else x

/-! ## Neighbours on a decimal grid -/

/-- The place of a value on the grid of the multiples of `10 ^ exponent`. -/
structure GridPlace where
  /-- The number of whole steps below the value. -/
  lower : Nat
  /-- Compares twice the rest above `lower` with one step. -/
  half : Ordering
  exponent : Int

namespace GridPlace

/-- The place of `d` on the grid of its decimals with `n` digits. -/
def of (d : Dyadic64) (n : Nat) : GridPlace :=
  let u := d.leading - n + 1
  let num := d.num * Nat.pow 10 (-u).toNat
  let den := d.den * Nat.pow 10 u.toNat
  ⟨num / den, compare (2 * (num % den)) den, u⟩

/-- The neighbour below or at the value. -/
def below (g : GridPlace) : Decimal := ⟨g.lower, g.exponent⟩

/-- The neighbour above the value. -/
def above (g : GridPlace) : Decimal := ⟨g.lower + 1, g.exponent⟩

/-- Whether the lower neighbour is nearer, or equally near and even. -/
def prefersBelow (g : GridPlace) : Bool :=
  match g.half with
  | .lt => true
  | .eq => g.lower % 2 = 0
  | .gt => false

/-- The nearer neighbour, of two equally near ones the even one. -/
def nearer (g : GridPlace) : Decimal := if g.prefersBelow then g.below else g.above

end GridPlace

/-- The decimal of `n` digits nearest to a positive value. -/
def Dyadic64.rounded (n : Nat) (d : Dyadic64) : Decimal := (GridPlace.of d n).nearer

/-- The neighbour of `x` among the decimals of `n` digits that reads back as `x`: the
    nearer one if both do. -/
def readingBack? (x : Float) (n : Nat) : Option Decimal :=
  let g := GridPlace.of (Dyadic64.ofFloat x) n
  let reads (d : Decimal) : Bool := d.nearest.toBits = x.toBits
  if reads g.below then
    if reads g.above then some g.nearer else some g.below
  else if reads g.above then some g.above
  else none

/-- The fewest digits that read back as the positive finite double `x`. Seventeen
    digits always suffice. -/
def shortest (x : Float) : Decimal :=
  if (Dyadic64.ofFloat x).mantissa = 0 then ⟨0, 0⟩
  else
    (((List.range 17).findSome? fun i => readingBack? x (i + 1)).getD
      (Dyadic64.ofFloat x).exact).normalize

end RowQuery
