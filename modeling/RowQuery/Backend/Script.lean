/-
  RowQuery — a backend that answers from a script.

  A script has an answer for each statement, in order, wherever it is sent, and may
  make the next begin, commit or rollback fail. When the answers are used up,
  statements affect no rows.
-/
import RowQuery.Backend.Dialogue

namespace RowQuery

/-- The answers that are left. -/
structure Script where
  replies : List (Except DriverError Reply)
  beginFailure : Option String
  commitFailure : Option String
  rollbackFailure : Option String

namespace Script

/-- The script without answers and failures. -/
def empty : Script := ⟨[], none, none, none⟩

/-- The answer to the next statement. -/
def answer (s : Script) : Except DriverError Reply × Script :=
  match s.replies with
  | reply :: replies => (reply, { s with replies := replies })
  | [] => (.ok (.header 0 none), s)

/-- The answer of a control that fails with a message, if there is one. -/
def failing : Option String → Except DriverError Unit
  | some message => .error (.plain message)
  | none => .ok ()

/-- The answer to a control; a failure is used up by it. -/
def answerControl (s : Script) : Control → Except DriverError Unit × Script
  | .begin => (failing s.beginFailure, { s with beginFailure := none })
  | .commit => (failing s.commitFailure, { s with commitFailure := none })
  | .rollback => (failing s.rollbackFailure, { s with rollbackFailure := none })

/-- The backend that answers from a script. -/
def backend : Backend Script where
  query _ _ s := s.answer
  control c s := s.answerControl c

end Script

end RowQuery
