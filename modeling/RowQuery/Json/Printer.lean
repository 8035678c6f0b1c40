/-
  RowQuery — texts of JSON trees.

  Both texts are functions on lists of characters, so that what follows a value can
  be named in a statement.

  * `Json.compact` has no white space;
  * `Json.pretty` gives each item and each member a line of its own, indented by two
    more spaces than the line of its container; empty containers stay closed up;
  * a string is escaped only where JSON demands it: the quote, the backslash and the
    characters below U+0020.
-/
import RowQuery.Json.Basic

namespace RowQuery

namespace Json

/-- A hexadecimal digit in lower case. -/
def hexDigit (n : Nat) : Char := Nat.digitChar n

/-- A character within a string literal. -/
def escape (c : Char) : List Char :=
  if c = '\x22' then ['\\', '\x22']
  else if c = '\\' then ['\\', '\\']
  else if c = '\x08' then ['\\', 'b']
  else if c = '\x0c' then ['\\', 'f']
  else if c = '\n' then ['\\', 'n']
  else if c = '\r' then ['\\', 'r']
  else if c = '\t' then ['\\', 't']
  else if c.toNat < 0x20 then ['\\', 'u', '0', '0', hexDigit (c.toNat / 16), hexDigit (c.toNat % 16)]
  else [c]

/-- The string literal of a text. -/
def literal (s : String) : List Char := '\x22' :: s.toList.flatMap escape ++ ['\x22']

/-! ## Without white space -/

mutual

/-- The compact text of a tree, as characters. -/
def chars : Json → List Char
  | null => ['n', 'u', 'l', 'l']
  | bool true => ['t', 'r', 'u', 'e']
  | bool false => ['f', 'a', 'l', 's', 'e']
  | num n => n.chars
  | str s => literal s
  | arr items => '[' :: itemChars items ++ [']']
  | obj members => '\x7b' :: memberChars members ++ ['\x7d']

/-- The items of an array, with commas between them. -/
def itemChars : List Json → List Char
  | [] => []
  | [j] => chars j
  | j :: js => chars j ++ ',' :: itemChars js

/-- The members of an object, with commas between them. -/
def memberChars : List (String × Json) → List Char
  | [] => []
  | [(k, j)] => literal k ++ ':' :: chars j
  | (k, j) :: ms => literal k ++ ':' :: (chars j ++ ',' :: memberChars ms)

end

/-- The text of a tree without white space. -/
def compact (j : Json) : String := String.ofList j.chars

/-! ## With a line for each item -/

/-- The start of a line at a depth of nesting. -/
def lineStart (depth : Nat) : List Char := '\n' :: List.replicate (2 * depth) ' '

mutual

/-- The indented text of a tree inside `depth` containers, as characters. -/
def prettyChars (depth : Nat) : Json → List Char
  | arr (j :: js) =>
    '[' :: prettyItems (depth + 1) (j :: js) ++ lineStart depth ++ [']']
  | obj (m :: ms) =>
    '\x7b' :: prettyMembers (depth + 1) (m :: ms) ++ lineStart depth ++ ['\x7d']
  | j => chars j

/-- The items of an array, each on its line. -/
def prettyItems (depth : Nat) : List Json → List Char
  | [] => []
  | [j] => lineStart depth ++ prettyChars depth j
  | j :: js => lineStart depth ++ prettyChars depth j ++ ',' :: prettyItems depth js

/-- The members of an object, each on its line. -/
def prettyMembers (depth : Nat) : List (String × Json) → List Char
  | [] => []
  | [(k, j)] => lineStart depth ++ literal k ++ ':' :: ' ' :: prettyChars depth j
  | (k, j) :: ms =>
    lineStart depth ++ literal k ++ ':' :: ' ' :: prettyChars depth j ++
      ',' :: prettyMembers depth ms

end

/-- The text of a tree with a line for each item and each member. -/
def pretty (j : Json) : String := String.ofList (j.prettyChars 0)

end Json

end RowQuery
