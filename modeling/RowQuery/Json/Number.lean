/-
  RowQuery — JSON numbers.

  A number is kept exactly when it is an integer of a signed or an unsigned 64-bit
  word, and as a finite double otherwise (`Number`); the ranges are part of the type.

  * `Literal` is a number as it is spelled, part by part (`Spelling`); `Literal.toFloat` is the
    double nearest to it;
  * `Literal.read` is the double that a reader of JSON makes of it, by way of a significand of
    64 bits; `Number.ofLiteral?` is its value, `none` when it is beyond the largest double;
  * `Number.chars` is the text of a number: an integer's digits, or the fewest
    digits that read back, positional from `10⁻⁵` to below `10¹⁶`.
-/
import RowQuery.Decimal.Shortest

namespace RowQuery

/-- The least integer of a signed 64-bit word. -/
abbrev Number.minInt64 : Int := -0x8000000000000000

/-- The greatest integer of a signed 64-bit word. -/
abbrev Number.maxInt64 : Int := 0x7fffffffffffffff

/-- The greatest integer of an unsigned 64-bit word. -/
abbrev Number.maxUInt64 : Int := 0xffffffffffffffff

/-- A JSON number: a 64-bit integer or a finite double. -/
inductive Number where
  | int (n : Int) (inRange : Number.minInt64 ≤ n ∧ n ≤ Number.maxUInt64)
  | float (x : Float) (finite : x.isFinite = true)
deriving DecidableEq

namespace Number

/-- The number of a signed word. -/
def ofInt64 (n : Int64) : Number :=
  .int n.toInt ⟨n.le_toInt, by have := n.toInt_lt; simp only [Number.maxUInt64]; omega⟩

/-- The number of an unsigned word. -/
def ofUInt64 (n : UInt64) : Number :=
  .int n.toNat
    ⟨by simp only [Number.minInt64]; omega,
      by have := n.toNat_lt; simp only [Number.maxUInt64]; omega⟩

/-- The number of a double, if it is finite. -/
def ofFloat? (x : Float) : Option Number :=
  if h : x.isFinite = true then some (.float x h) else none

/-- The signed word of a number that is an integer of that range. -/
def toInt64? : Number → Option Int64
  | .int n _ => if n ≤ maxInt64 then some (Int64.ofInt n) else none
  | .float .. => none

/-- The unsigned word of a number that is an integer of that range. -/
def toUInt64? : Number → Option UInt64
  | .int n _ => if 0 ≤ n then some (UInt64.ofNat n.toNat) else none
  | .float .. => none

/-- The double nearest to a number. -/
def toFloat : Number → Float
  | .int n _ =>
    let size := (UInt64.ofNat n.natAbs).toFloat
    if n < 0 then -size else size
  | .float x _ => x

end Number

/-! ## Spellings -/

/-- The value of decimal digits, read after the number `n`. -/
def digitsValue (n : Nat) (ds : List Char) : Nat :=
  ds.foldl (fun n d => n * 10 + (d.toNat - '0'.toNat)) n

/-- The parts of a number that is written without a sign: the digits before its point and behind
    it, and the digits of its exponent with whether it is negative. -/
structure Spelling where
  digits : List Char
  fraction : Option (List Char)
  power : Option (Bool × List Char)
deriving DecidableEq, Repr

namespace Spelling

/-- The digits behind the point. -/
def places (s : Spelling) : List Char := s.fraction.getD []

/-- The exponent as a number. -/
def powerValue (s : Spelling) : Int :=
  match s.power with
  | none => 0
  | some (negative, ds) => if negative then -(digitsValue 0 ds : Int) else digitsValue 0 ds

/-- The decimal that is spelled. -/
def value (s : Spelling) : Decimal :=
  ⟨digitsValue 0 (s.digits ++ s.places), s.powerValue - s.places.length⟩

/-- Whether neither a fraction nor an exponent is written. -/
def whole (s : Spelling) : Bool := s.fraction.isNone && s.power.isNone

end Spelling

/-- A number as it is spelled, with whether it has the sign `-`. -/
structure Literal extends Spelling where
  negative : Bool
deriving DecidableEq, Repr

/-- The double nearest to a spelled number. -/
def Literal.toFloat (l : Literal) : Float :=
  if l.negative then -l.value.nearest else l.value.nearest

/-! ## Reading

The doubles of a JSON text are not the nearest ones. Their digits are taken into a word of 64 bits
as far as they fit, and its double is scaled by a power of ten: each of the two may round. -/

/-- Digits read after the number `n` into a word, up to the first that makes it too large; and how
    many are left out. -/
def takeDigits (n : Nat) : List Char → Nat × Nat
  | [] => (n, 0)
  | d :: ds =>
    if digitsValue n [d] < UInt64.size then takeDigits (digitsValue n [d]) ds
    else (n, ds.length + 1)

/-- The greatest power of ten that a double is scaled by at once. -/
def maxPower : Nat := 308

/-- A double times a power of ten: a division takes as many steps as `maxPower` asks for, and a
    multiplication beyond it is infinite. -/
def scaled (x : Float) (e : Int) : Float :=
  if e.natAbs ≤ maxPower then
    let power := Decimal.nearest ⟨1, e.natAbs⟩
    if 0 ≤ e then x * power else x / power
  else if x == 0.0 then x
  else if 0 ≤ e then 1.0 / 0.0
  else scaled (x / Decimal.nearest ⟨1, maxPower⟩) (e + maxPower)
termination_by e.natAbs
decreasing_by simp only [maxPower] at *; omega

/-- The double that is read of a spelling; it is infinite beyond the largest double. -/
def Spelling.read (s : Spelling) : Float :=
  let (n, skipped) := takeDigits 0 s.digits
  let (n, dropped) := takeDigits n s.places
  scaled (UInt64.ofNat n).toFloat (s.powerValue + skipped - (s.places.length - dropped : Nat))

/-- The double that is read of a spelled number. -/
def Literal.read (l : Literal) : Float :=
  if l.negative then -l.toSpelling.read else l.toSpelling.read

/-- The value of a spelled number: a whole number of 64 bits is kept exactly, except
    for `-0`; any other is the double that is read, if that is finite. -/
def Number.ofLiteral? (l : Literal) : Option Number :=
  let n : Int := if l.negative then -l.value.digits else l.value.digits
  if h : l.whole = true ∧ ¬(l.negative = true ∧ n = 0) ∧ minInt64 ≤ n ∧ n ≤ maxUInt64 then
    some (.int n h.2.2)
  else Number.ofFloat? l.read

/-! ## Texts -/

/-- Numbers are positional from `10⁻⁵` to below `10¹⁶`; otherwise the exponent has a
    sign and no padding, and a mantissa of one digit has no point. -/
def Number.layout : DecimalLayout := ⟨-5, 16, 1, false⟩

/-- The text of a finite double. -/
def floatChars (x : Float) : List Char :=
  let text := Number.layout.write (shortest (magnitude x))
  if isSigned x then '-' :: text else text

/-- The text of an integer. -/
def intChars (n : Int) : List Char :=
  if n < 0 then '-' :: Decimal.digitChars n.natAbs else Decimal.digitChars n.natAbs

/-- The text of a number. -/
def Number.chars : Number → List Char
  | .int n _ => intChars n
  | .float x _ => floatChars x

end RowQuery
