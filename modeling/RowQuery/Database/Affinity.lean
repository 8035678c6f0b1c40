/-
  RowQuery — the affinity of a column.

  A column prefers a kind of values, by the words of its declared type. A stored value
  takes that kind if nothing is lost, and so does a value that is compared with a column.

  * `Affinity.ofType` is the affinity of a declared type;
  * `Affinity.store` is the value that a column keeps for a given one;
  * `Affinity.between` says how two compared values are brought together.
-/
import RowQuery.Database.Numeral
import RowQuery.Text.Case
import RowQuery.Text.Ending

namespace RowQuery

namespace Database

/-- The kind of values that a column prefers. -/
inductive Affinity where
  | integer
  | numeric
  | real
  | text
  | blob
deriving DecidableEq, Repr

namespace Affinity

/-- The affinity of a declared type. -/
def ofType (type : String) : Affinity :=
  let has (part : String) : Bool := occursIn part (asciiLower type)
  if has "int" then integer
  else if has "char" || has "clob" || has "text" then text
  else if has "blob" || type.isEmpty then blob
  else if has "real" || has "floa" || has "doub" then real
  else numeric

/-- Whether a column prefers numbers. -/
def isNumeric : Affinity → Bool
  | integer | numeric | real => true
  | text | blob => false

/-- A value as a text if it is a number. -/
def asText : Value → Value
  | v@(.int _) | v@(.real _) => (v.toText.map .text).getD v
  | v => v

/-- A value as a double if it is a number. -/
def asReal : Value → Value
  | .int n => .real (Value.nearestFloat n)
  | v => v

/-- The value that a column keeps. -/
def store : Affinity → Value → Value
  | integer, v | numeric, v => v.compactNumeric
  | real, v => asReal v.compactNumeric
  | text, v => asText v
  | blob, v => v

/-! ## Comparisons -/

/-- How compared values are changed before the comparison. -/
inductive Meeting where
  /-- Texts that spell a number are numbers. -/
  | numbers
  /-- Numbers are texts if the other value is a text. -/
  | texts
  | unchanged
deriving DecidableEq, Repr

/-- How values meet of which one has an affinity. -/
def alone : Affinity → Meeting
  | integer | numeric | real => .numbers
  | text => .texts
  | blob => .unchanged

/-- How two values meet, each of which may have an affinity. -/
def between : Option Affinity → Option Affinity → Meeting
  | some a, some b => if a.isNumeric || b.isNumeric then .numbers else .unchanged
  | some a, none | none, some a => a.alone
  | none, none => .unchanged

namespace Meeting

/-- Whether a value is a text. -/
def isText : Value → Bool
  | .text _ => true
  | _ => false

/-- Two values, as they are compared. -/
def apply : Meeting → Value → Value → Value × Value
  | numbers, a, b => (a.numeric, b.numeric)
  | texts, a, b => if isText a || isText b then (asText a, asText b) else (a, b)
  | unchanged, a, b => (a, b)

/-- The order of two values, unknown if one of them is null. -/
def compare? (m : Meeting) (a b : Value) : Option Ordering :=
  match a, b with
  | .null, _ | _, .null => none
  | a, b =>
    let (a, b) := m.apply a b
    some (a.order b)

end Meeting

end Affinity

end Database

end RowQuery
