/-
  RowQuery — the values that a database stores and computes with.

  A database knows five kinds of values. A truth is the integer 1 or 0, and an unknown
  one is null.

  * `Value.ofBound` is the value of what is bound: a truth becomes an integer;
  * `Cell.ofValue` is the cell in which a value comes back;
  * `Value.order` is the order of all values: null, numbers, texts, bytes; integers and
    doubles are compared exactly;
  * `Value.toText` is the text of a value, a double with at most 15 digits.
-/
import RowQuery.Backend.Driver

namespace RowQuery

namespace Database

/-- A value of a database. -/
inductive Value where
  | null
  | int (n : Int64)
  | real (x : Float)
  | text (s : String)
  | blob (bytes : List UInt8)
deriving DecidableEq

namespace Value

instance : Inhabited Value := ⟨null⟩

/-! ## Bound values -/

/-- The value of a double; what is not a number is null. -/
def ofFloat (x : Float) : Value := if x.isNaN then null else real x

/-- The value of what is bound. -/
def ofBound : Bound → Value
  | .null => null
  | .bool b => int (if b then 1 else 0)
  | .int n => int n
  | .real x => ofFloat x
  | .text s => text s

/-- The value of a truth, null if it is unknown. -/
def ofTruth : Option Bool → Value
  | none => null
  | some b => int (if b then 1 else 0)

/-! ## Order -/

/-- The double nearest to an integer. -/
def nearestFloat (n : Int64) : Float := (Number.ofInt64 n).toFloat

/-- The order of an integer and a double, which is not rounded. -/
def orderMixed (n : Int64) (x : Float) : Ordering :=
  if x.isFinite then
    let d := Dyadic64.ofFloat x
    let num : Int := if isSigned x then -d.num else d.num
    compare (n.toInt * d.den) num
  else if isSigned x then .gt
  else .lt

/-- The order of two doubles. -/
def orderFloats (x y : Float) : Ordering := if x < y then .lt else if x == y then .eq else .gt

/-- The rank of a value's kind. -/
def rank : Value → Nat
  | null => 0
  | int _ | real _ => 1
  | text _ => 2
  | blob _ => 3

/-- The order of two values. -/
def order : Value → Value → Ordering
  | int m, int n => compare m.toInt n.toInt
  | real x, real y => orderFloats x y
  | int n, real x => orderMixed n x
  | real x, int n => (orderMixed n x).swap
  | text s, text t => compare s t
  | blob a, blob b => compare (a.map UInt8.toNat) (b.map UInt8.toNat)
  | a, b => compare a.rank b.rank

/-! ## Texts -/

/-- Doubles are written with at most 15 digits, positionally from `10⁻⁴` to below `10¹⁵`,
    and always with a point. -/
def layout : DecimalLayout := ⟨-4, 15, 2, true⟩

/-- The text of a double. -/
def floatText (x : Float) : List Char :=
  if x.isFinite then
    let d := Dyadic64.ofFloat x
    let digits := if d.mantissa = 0 then ⟨0, 0⟩ else d.rounded 15
    if isSigned x && d.mantissa ≠ 0 then '-' :: layout.write digits else layout.write digits
  else if isSigned x then ['-', 'I', 'n', 'f']
  else ['I', 'n', 'f']

/-- The text of a value, if it is not null. -/
def toText : Value → Option String
  | null => none
  | int n => some (String.ofList (intChars n.toInt))
  | real x => some (String.ofList (floatText x))
  | text s => some s
  | blob bytes => some (Utf8.text bytes)

end Value

end Database

/-- The cell of a value, decoded as its own kind only. -/
def Cell.ofValue : Database.Value → Cell
  | .null => ⟨none, none, none, none, none⟩
  | .int n => ⟨some "INTEGER", some n, none, none, none⟩
  | .real x => ⟨some "REAL", none, some x, none, none⟩
  | .text s => ⟨some "TEXT", none, none, none, some s⟩
  | .blob bytes => ⟨some "BLOB", none, none, some bytes, none⟩

end RowQuery
