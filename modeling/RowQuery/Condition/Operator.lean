/-
  RowQuery — comparison operators and the joiners of condition groups.

  Both are closed sets of names. An operator's name may begin with one `$` and is
  read without regard to ASCII case; a joiner's name has no `$`.
-/
import RowQuery.Text.Case

namespace RowQuery

/-- A comparison operator. -/
inductive Operator where
  | eq
  | ne
  | gt
  | lt
  | gte
  | lte
  | within
  | notWithin
  | like
deriving DecidableEq, Repr

namespace Operator

/-- All operators. -/
def all : List Operator := [eq, ne, gt, lt, gte, lte, within, notWithin, like]

/-- The token of an operator in a statement. -/
def sql : Operator → String
  | eq => "="
  | ne => "!="
  | gt => ">"
  | lt => "<"
  | gte => ">="
  | lte => "<="
  | within => "IN"
  | notWithin => "NOT IN"
  | like => "LIKE"

/-- The canonical name of an operator. -/
def name : Operator → String
  | eq => "eq"
  | ne => "ne"
  | gt => "gt"
  | lt => "lt"
  | gte => "gte"
  | lte => "lte"
  | within => "in"
  | notWithin => "nin"
  | like => "like"

/-- A name without one `$` at its start, in lower case. -/
def folded (s : String) : String :=
  match s.toList with
  | '$' :: cs => asciiLower (String.ofList cs)
  | _ => asciiLower s

/-- The operator of a name, in any of its spellings. -/
def ofName? (s : String) : Option Operator :=
  let name := folded s
  if name = "notin" then some notWithin else all.find? fun op => op.name = name

end Operator

/-- How the members of a condition group are joined. -/
inductive Joiner where
  | and
  | or
deriving DecidableEq, Repr

namespace Joiner

/-- The text between two members of a group. -/
def separator : Joiner → String
  | and => " AND "
  | or => " OR "

/-- The canonical name of a joiner. -/
def name : Joiner → String
  | and => "and"
  | or => "or"

/-- The joiner of a name. -/
def ofName? (s : String) : Option Joiner :=
  let name := asciiLower s
  if name = "and" then some and else if name = "or" then some or else none

end Joiner

end RowQuery
