/-
  RowQuery — why a request is refused before anything is sent.

  `RequestError.message` is the wording for people, `RequestError.code` the one for
  programs.
-/
import RowQuery.Decode.Error

namespace RowQuery

/-- The wording of a text that does not decode. -/
def TextError.message : TextError → String
  | notJson => "invalid JSON"
  | data e => e.message

/-- Why a request is refused. -/
inductive RequestError where
  | condition (e : ConditionError)
  /-- The update payload of this index has no condition, as there are only so many. -/
  | unpairedPayload (index conditions : Nat)
  | json (e : TextError)
deriving DecidableEq

namespace RequestError

/-- The wording of a refusal. -/
def message : RequestError → String
  | condition e => e.message
  | unpairedPayload index conditions =>
    "update payload " ++ toString index ++ " has no matching condition (" ++
      toString conditions ++ " supplied)"
  | json e => "JSON error: " ++ e.message

/-- Whether the shape of a condition or one of its names was refused. -/
def isInvalidCondition : RequestError → Bool
  | condition _ => true
  | _ => false

/-- The code of a refusal. -/
def code : RequestError → String
  | condition _ => "INVALID_CONDITION"
  | unpairedPayload .. => "UNPAIRED_PAYLOAD"
  | json _ => "JSON_ERROR"

end RequestError

end RowQuery
