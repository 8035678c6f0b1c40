/-
  RowQuery — expressions of statements, as they are written.

  From loosest to tightest: `OR`; `AND`; equality, `IN` and `LIKE`; the order comparisons;
  sums; and single operands. Operators of one level group to the left.

  * `Expr` is an expression in which names are not yet resolved;
  * `Expr.reading` reads one.
-/
import RowQuery.Database.Reading

namespace RowQuery

namespace Database

/-- A comparison of two values. -/
inductive Comparator where
  | eq
  | ne
  | lt
  | le
  | gt
  | ge
deriving DecidableEq, Repr

/-- Whether a comparison holds of values in a given order. -/
def Comparator.holds : Comparator → Ordering → Bool
  | eq, o => o = .eq
  | ne, o => o ≠ .eq
  | lt, o => o = .lt
  | le, o => o ≠ .gt
  | gt, o => o = .gt
  | ge, o => o ≠ .lt

/-- An expression of a statement. -/
inductive Expr where
  | value (v : Value)
  | number (l : Literal)
  | mark (n : Nat)
  | name (table : Option String) (column : String) (maybeText : Bool)
  /-- A function of arguments, or of `*`. -/
  | call (function : String) (args : Option (List Expr))
  | negate (e : Expr)
  | sum (a b : Expr)
  | difference (a b : Expr)
  | compare (c : Comparator) (a b : Expr)
  | within (negated : Bool) (a : Expr) (items : List Expr)
  | like (negated : Bool) (a pattern : Expr)
  | and (a b : Expr)
  | or (a b : Expr)
  /-- Several expressions in parentheses. -/
  | tuple (es : List Expr)

namespace Expr

open Reading

/-! ## Single operands -/

/-- The expression of a single token that has a value. -/
def ofToken? (t : Token) : Option Expr :=
  match t.kind with
  | .text s => some (value (.text s))
  | .blob bytes => some (value (.blob bytes))
  | .number l => some (number l)
  | .mark n => some (mark n)
  | _ => if t.isWord "null" then some (value .null) else none

/-- Expressions in parentheses; a single one is just that. -/
def grouped : List Expr → Expr
  | [e] => e
  | es => tuple es

/-- The arguments of a function, after the opening parenthesis. -/
def arguments (inner : Reading Expr) : Reading (Option (List Expr)) := do
  if ← symbol? "*" then
    symbol ")"
    return none
  else if ← symbol? ")" then return some []
  else
    let args ← commaList inner
    symbol ")"
    return some args

/-- A name, or what begins with one. -/
def named (inner : Reading Expr) : Reading Expr := do
  let (s, maybeText) ← take nameOf
  if ← symbol? "." then return name (some s) (← Reading.name) false
  else if ← symbol? "(" then return call s (← arguments inner)
  else return name none s maybeText

/-- An operand, after as many minus signs as there are; there are at most `n`. -/
def operand (inner : Reading Expr) : Nat → Reading Expr
  | 0 => refuse
  | n + 1 => do
    if ← symbol? "-" then return negate (← operand inner n)
    else if ← symbol? "(" then
      let es ← commaList inner
      symbol ")"
      return grouped es
    else
      match ← takeIf ofToken? with
      | some e => return e
      | none => named inner

/-! ## Operators -/

/-- One more operand after an operator between two, if one of these follows. -/
def joined (operator : Token → Option (Expr → Expr → Expr)) (next : Reading Expr) (a : Expr) :
    Reading (Option Expr) := do
  match ← takeIf operator with
  | some join => return some (join a (← next))
  | none => return none

/-- A sum or a difference. -/
def additive (t : Token) : Option (Expr → Expr → Expr) :=
  if t.isSymbol "+" then some sum else if t.isSymbol "-" then some difference else none

/-- A comparison of order. -/
def ordering (t : Token) : Option (Expr → Expr → Expr) :=
  if t.isSymbol "<" then some (compare .lt)
  else if t.isSymbol "<=" then some (compare .le)
  else if t.isSymbol ">" then some (compare .gt)
  else if t.isSymbol ">=" then some (compare .ge)
  else none

/-- A comparison of equality. -/
def equating (t : Token) : Option (Expr → Expr → Expr) :=
  if t.isSymbol "=" || t.isSymbol "==" then some (compare .eq)
  else if t.isSymbol "!=" || t.isSymbol "<>" then some (compare .ne)
  else none

/-- Whether an expression is false by its form: a zero, or a membership of nothing. -/
def isFalse : Expr → Bool
  | value (.int n) => n = 0
  | number l => l.whole && l.value.digits = 0
  | _ => false

/-- Whether an expression is true by its form: a number other than zero, the absence from
    nothing, or what is composed of such. -/
def isTrue : Expr → Bool
  | value (.int n) => n ≠ 0
  | number l => l.whole && l.value.digits ≠ 0
  | and a b => a.isTrue && b.isTrue
  | or a b => a.isTrue || b.isTrue
  | _ => false

/-- A conjunction; with a member that is false by its form, the other does not count. -/
def both (a b : Expr) : Expr := if a.isFalse || b.isFalse then value (.int 0) else and a b

/-- A membership; in an empty list there is nothing, whatever the value. -/
def memberOf (negated : Bool) (a : Expr) (items : List Expr) : Expr :=
  if items.isEmpty then value (.int (if negated then 1 else 0)) else within negated a items

/-- A conjunction. -/
def conjunctive (t : Token) : Option (Expr → Expr → Expr) :=
  if t.isWord "and" then some both else none

/-- A disjunction. -/
def disjunctive (t : Token) : Option (Expr → Expr → Expr) :=
  if t.isWord "or" then some or else none

/-- Sums of operands. -/
def sums (inner : Reading Expr) : Reading Expr := do
  let operand := operand inner (← left)
  repeated (joined additive operand) (← operand)

/-- Comparisons of the order of sums. -/
def orders (inner : Reading Expr) : Reading Expr := do
  repeated (joined ordering (sums inner)) (← sums inner)

/-- The items of a list in parentheses, which may be empty. -/
def listed (inner : Reading Expr) : Reading (List Expr) := do
  symbol "("
  if ← symbol? ")" then return []
  else
    let items ← commaList inner
    symbol ")"
    return items

/-- A membership or a pattern after a value, which has to follow if it is negated. -/
def membership (inner : Reading Expr) (a : Expr) : Reading (Option Expr) := do
  let negated ← keyword? "not"
  if ← keyword? "in" then return some (memberOf negated a (← listed inner))
  else if ← keyword? "like" then return some (like negated a (← orders inner))
  else if negated then refuse
  else return none

/-- One more test of a value, if one follows. -/
def test (inner : Reading Expr) (a : Expr) : Reading (Option Expr) := do
  match ← joined equating (orders inner) a with
  | some e => return some e
  | none => membership inner a

/-- Tests of equality, membership and pattern. -/
def tests (inner : Reading Expr) : Reading Expr := do
  repeated (test inner) (← orders inner)

/-- Conjunctions of tests. -/
def conjunctions (inner : Reading Expr) : Reading Expr := do
  repeated (joined conjunctive (tests inner)) (← tests inner)

/-- Disjunctions of conjunctions. -/
def disjunctions (inner : Reading Expr) : Reading Expr := do
  repeated (joined disjunctive (conjunctions inner)) (← conjunctions inner)

/-- An expression whose parentheses are nested less than `depth` deep. -/
def nested : Nat → Reading Expr
  | 0 => refuse
  | depth + 1 => disjunctions (nested depth)

/-- An expression; parentheses cannot be nested deeper than there are tokens. -/
def reading : Reading Expr := do
  nested ((← left) + 1)

end Expr

end Database

end RowQuery
