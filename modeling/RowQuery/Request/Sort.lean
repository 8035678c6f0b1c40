/-
  RowQuery — sort orders.

  A sort order gives each of its fields a direction; the fields count in the order in
  which they first came. A direction is written `1` or `-1`; it is read from any
  number or string, and everything but `-1` and `desc` is ascending.
-/
import RowQuery.Decode.Decoder
import RowQuery.Text.Blank
import RowQuery.Text.Case

namespace RowQuery

/-- The direction of a sort. -/
inductive Direction where
  | asc
  | desc
deriving DecidableEq, Repr

namespace Direction

/-- The keyword of a direction. -/
def sql : Direction → String
  | asc => "ASC"
  | desc => "DESC"

/-- The direction of a number. -/
def ofCode (n : Int64) : Direction := if n = -1 then desc else asc

/-- The direction of a name. -/
def ofName (s : String) : Direction :=
  let name := asciiLower (trimBlanks s)
  if name = "desc" ∨ name = "-1" then desc else asc

/-- The direction of a JSON tree, if it is a number or a string. -/
def ofJson? : Json → Option Direction
  | .num n =>
    match n.toInt64? with
    | some code => some (ofCode code)
    | none => some asc
  | .str s => some (ofName s)
  | _ => none

/-- The decoder of directions. -/
def decoder : Decoder Direction := .viaTree fun j =>
  match ofJson? j with
  | some d => .ok d
  | none => .error (.noShape "Raw")

/-- The number of a direction. -/
def code : Direction → Int64
  | asc => 1
  | desc => -1

/-- The JSON number of a direction. -/
def toJson (d : Direction) : Json := .num (.ofInt64 d.code)

end Direction

/-- A direction for each of some fields, in order. -/
abbrev SortOrder := OrderedMap Direction

namespace SortOrder

/-- Sorts by a field in ascending order. -/
def asc (s : SortOrder) (field : String) : SortOrder := s.insert field .asc

/-- Sorts by a field in descending order. -/
def desc (s : SortOrder) (field : String) : SortOrder := s.insert field .desc

/-- The decoder of sort orders. -/
def decoder : Decoder SortOrder := .map Direction.decoder

/-- The JSON object of a sort order. -/
def toJson (s : SortOrder) : Json := .obj (s.entries.map fun e => (e.1, e.2.toJson))

end SortOrder

end RowQuery
