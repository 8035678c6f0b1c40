/-
  RowQuery — totals over rows.

  Nulls do not count, and without other values there is no total but a count of zero. A
  sum of integers is exact; from the first other number on it is a sum of doubles whose
  rounding errors are summed beside it (`CompensatedSum`).
-/
import RowQuery.Database.Numeral

namespace RowQuery

namespace Database

/-- A total over the values of an expression. -/
inductive Aggregate where
  | sum
  | average
  | least
  | greatest
  | count
deriving DecidableEq, Repr

/-- A sum of doubles, and beside it the sum of its rounding errors. -/
structure CompensatedSum where
  sum : Float
  error : Float

namespace CompensatedSum

/-- The sum with one more double. -/
def add (s : CompensatedSum) (x : Float) : CompensatedSum :=
  let next := s.sum + x
  let lost := if s.sum.abs > x.abs then (s.sum - next) + x else (x - next) + s.sum
  ⟨next, s.error + lost⟩

/-- From this magnitude on integers are added in two parts. -/
def exactBelow : Nat := 0x10000000000000

/-- The sum with one more integer. -/
def addInt (s : CompensatedSum) (n : Int64) : CompensatedSum :=
  if n.toInt.natAbs < exactBelow then s.add (Value.nearestFloat n)
  else (s.add (Value.nearestFloat (n - n % 16384))).add (Value.nearestFloat (n % 16384))

/-- The sum that begins with an integer. -/
def ofInt (n : Int64) : CompensatedSum :=
  if n.toInt.natAbs < exactBelow then ⟨Value.nearestFloat n, 0.0⟩
  else ⟨Value.nearestFloat (n - n % 16384), Value.nearestFloat (n % 16384)⟩

/-- The value of a sum. -/
def value (s : CompensatedSum) : Float := if s.error.isFinite then s.sum + s.error else s.sum

end CompensatedSum

/-- A sum of numbers. -/
inductive RunningSum where
  | exact (n : Int64)
  | rounded (s : CompensatedSum)

namespace RunningSum

/-- The sum of integers, exact while it is one of a signed word. -/
def addInts (m n : Int64) : RunningSum :=
  let r := m.toInt + n.toInt
  if Number.minInt64 ≤ r ∧ r ≤ Number.maxInt64 then exact (Int64.ofInt r)
  else rounded ((CompensatedSum.ofInt m).addInt n)

/-- The sum with one more value; a text that spells no number counts as the one that it
    begins with. -/
def add : RunningSum → Value → RunningSum
  | exact n, v =>
    match v.numeric with
    | .int m => addInts n m
    | v => rounded ((CompensatedSum.ofInt n).add v.toFloat)
  | rounded s, v =>
    match v.numeric with
    | .int m => rounded (s.addInt m)
    | v => rounded (s.add v.toFloat)

/-- The sum of values. -/
def ofValues (vs : List Value) : RunningSum := vs.foldl add (exact 0)

/-- The value of a sum. -/
def value : RunningSum → Value
  | exact n => .int n
  | rounded s => .ofFloat s.value

/-- The sum as a double. -/
def toFloat : RunningSum → Float
  | exact n => Value.nearestFloat n
  | rounded s => s.value

end RunningSum

namespace Aggregate

/-- The aggregate of a function's name. -/
def ofName? : String → Option Aggregate
  | "sum" => some sum
  | "avg" => some average
  | "min" => some least
  | "max" => some greatest
  | "count" => some count
  | _ => none

/-- The first of the values that no other comes before in an order. -/
def first? (before : Ordering) : List Value → Option Value
  | [] => none
  | v :: vs => some (vs.foldl (fun best v => if v.order best = before then v else best) v)

/-- The total of values. -/
def apply (a : Aggregate) (vs : List Value) : Value :=
  let vs := vs.filter (· ≠ .null)
  match a with
  | sum => if vs.isEmpty then .null else (RunningSum.ofValues vs).value
  | average =>
    if vs.isEmpty then .null
    else .ofFloat ((RunningSum.ofValues vs).toFloat / vs.length.toFloat)
  | least => (first? .lt vs).getD .null
  | greatest => (first? .gt vs).getD .null
  | count => .int (Int64.ofNat vs.length)

end Aggregate

end Database

end RowQuery
