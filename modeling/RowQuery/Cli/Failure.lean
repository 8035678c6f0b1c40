/-
  RowQuery — how the program fails.

  A failure is told with its causes: a single one below the message, several with
  numbers, and further lines of a cause under the first.
-/
import RowQuery.Collection.Basic
import RowQuery.Request.Error

namespace RowQuery

namespace Cli

/-- Why a task failed. -/
inductive Failure where
  /-- A text is no JSON, or a file with JSON does not hold what it should. -/
  | unreadable (e : TextError)
  | told (message : String) (causes : List String)
deriving DecidableEq

/-- A text whose later lines begin with so many blanks. -/
def indented (width : Nat) (s : String) : List Char :=
  s.toList.flatMap fun c => if c = '\n' then '\n' :: List.replicate width ' ' else [c]

/-- A cause with its number. -/
def numbered (n : Nat) (cause : String) : List Char :=
  let number := Decimal.digitChars n
  '\n' :: List.replicate (5 - number.length) ' ' ++ number ++ [':', ' '] ++ indented 7 cause

/-- The causes of a failure. -/
def causeChars : List String → List Char
  | [] => []
  | [cause] => "\n\nCaused by:\n    ".toList ++ indented 4 cause
  | causes => "\n\nCaused by:".toList ++ (causes.mapIdx numbered).flatten

namespace Failure

/-- The failure of a message without causes. -/
def plain (message : String) : Failure := .told message []

/-- What is told of a failure. -/
def text : Failure → String
  | unreadable e => "Error: " ++ e.message
  | told message causes => String.ofList ("Error: ".toList ++ message.toList ++ causeChars causes)

/-- The failure of a refused request. -/
def ofRequest (e : RequestError) : Failure := .plain e.message

/-- The failure of an operation. -/
def ofStore (e : StoreError) : Failure := .told e.message e.causes

end Failure

end Cli

end RowQuery
