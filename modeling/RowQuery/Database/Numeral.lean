/-
  RowQuery — numerals in statements and in texts.

  A numeral has digits, at most one point among or beside them, and an exponent only if
  that has digits; without point and exponent it is whole.

  * `Numeral.unsigned?` is the longest numeral at the start of a text;
  * `Value.ofLiteral`: a whole numeral of a signed word is an integer, any other the
    nearest double;
  * `Numeral.ofText` is the number that a text spells, or begins with.
-/
import RowQuery.Database.Value
import RowQuery.Json.Lexeme

namespace RowQuery

namespace Database

namespace Numeral

/-- The white space around a number. -/
def isBlank (c : Char) : Bool :=
  c = ' ' || c = '\t' || c = '\n' || c = '\x0b' || c = '\x0c' || c = '\r'

/-- The digits after a point, none if there is no point. -/
def fraction : List Char → Option (List Char) × List Char
  | '.' :: cs => (some (cs.takeWhile Char.isDigit), cs.dropWhile Char.isDigit)
  | cs => (none, cs)

/-- The exponent, if it has digits. -/
def exponent (cs : List Char) : Option (Bool × List Char) × List Char :=
  match exponent? cs with
  | some power => power
  | none => (none, cs)

/-- The longest numeral at the start of a text, and what follows it. -/
def unsigned? (negative : Bool) (cs : List Char) : Option (Literal × List Char) :=
  let digits := cs.takeWhile Char.isDigit
  let (places, after) := fraction (cs.dropWhile Char.isDigit)
  if digits.isEmpty && (places.getD []).isEmpty then none
  else
    let (power, after) := exponent after
    some (⟨⟨digits, places, power⟩, negative⟩, after)

/-- The numeral at the start of a text, after white space and a sign. -/
def signed? (cs : List Char) : Option (Literal × List Char) :=
  match cs.dropWhile isBlank with
  | '-' :: cs => unsigned? true cs
  | '+' :: cs => unsigned? false cs
  | cs => unsigned? false cs

end Numeral

/-- The value of a spelled number. -/
def Value.ofLiteral (l : Literal) : Value :=
  let n : Int := if l.negative then -l.value.digits else l.value.digits
  if l.whole && decide (Number.minInt64 ≤ n ∧ n ≤ Number.maxInt64) then .int (Int64.ofInt n) else .real l.toFloat

namespace Numeral

/-- How much of a text is a numeral. -/
inductive Spelling where
  | whole (v : Value)
  | beginning (v : Value)
  | absent

/-- The number that a text spells or begins with; white space around it does not count. -/
def ofText (s : String) : Spelling :=
  match signed? s.toList with
  | some (l, after) =>
    if after.all isBlank then .whole (.ofLiteral l) else .beginning (.ofLiteral l)
  | none => .absent

end Numeral

namespace Value

/-- The double of a number, a text counting as the number that it begins with; a text
    without one is zero. -/
def toFloat : Value → Float
  | null => 0.0
  | int n => nearestFloat n
  | real x => x
  | v@(text _) | v@(blob _) =>
    match Numeral.ofText (v.toText.getD "") with
    | .whole (int n) | .beginning (int n) => nearestFloat n
    | .whole (real x) | .beginning (real x) => x
    | _ => 0.0

/-- The number of a value in a computation, if it is not null. -/
def toNumber : Value → Value
  | v@(text _) | v@(blob _) =>
    match Numeral.ofText (v.toText.getD "") with
    | .whole v | .beginning v => v
    | .absent => int 0
  | v => v

/-- The truth of a value: a number other than zero is true, and null unknown. -/
def truth : Value → Option Bool
  | null => none
  | int n => some (n != 0)
  | v => some !(v.toFloat == 0.0)

/-- The double as an integer, if it is one of a signed word. -/
def wholeInt? (x : Float) : Option Int64 :=
  if x.isFinite then
    let d := Dyadic64.ofFloat x
    let n : Int := if isSigned x then -((d.num / d.den : Nat) : Int) else (d.num / d.den : Nat)
    if d.num % d.den = 0 ∧ Number.minInt64 < n ∧ n < Number.maxInt64 then some (Int64.ofInt n) else none
  else none

/-- The number of a text that spells one; other values stay. -/
def numeric : Value → Value
  | v@(text s) =>
    match Numeral.ofText s with
    | .whole n => n
    | _ => v
  | v => v

/-- The number of a value, as an integer where that is exact; what is no number stays. -/
def compactNumeric (v : Value) : Value :=
  match v.numeric with
  | v@(real x) => ((wholeInt? x).map int).getD v
  | v => v

/-- The integer of a value that is one, or spells one. -/
def integer? (v : Value) : Option Int64 :=
  match v.compactNumeric with
  | int n => some n
  | _ => none

end Value

end Database

end RowQuery
