/-
  RowQuery — the output of the command line.

  As JSON a result is one indented tree. As text an array has one line for each item, an
  object one for each member that is not null (a string without its quotes), and
  anything else is one line.
-/
import RowQuery.Cli.Arguments
import RowQuery.Json.Printer

namespace RowQuery

namespace Cli

/-- The line of a member of an object, none if it is null. -/
def memberLine? : String × Json → Option String
  | (_, .null) => none
  | (key, .str s) => some (key ++ ": " ++ s)
  | (key, j) => some (key ++ ": " ++ j.compact)

/-- The lines of a result as text. -/
def textLines : Json → List String
  | .obj members => members.filterMap memberLine?
  | .arr items => items.map Json.compact
  | j => [j.compact]

/-- Lines, each ended by a line feed. -/
def joinLines (lines : List String) : String := String.join (lines.map fun line => line ++ "\n")

/-- The output of a result. -/
def render : Format → Json → String
  | .text, j => joinLines (textLines j)
  | .json, j => joinLines [j.pretty]

end Cli

end RowQuery
