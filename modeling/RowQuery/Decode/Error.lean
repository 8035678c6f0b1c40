/-
  RowQuery — why a JSON text or tree does not decode.

  * `DataError` is JSON of the wrong shape, `DataError.message` its wording;
  * `TextError` is a text that is no JSON, or JSON of the wrong shape.
-/
import RowQuery.Condition.Error
import RowQuery.Json.Draft
import RowQuery.Text.Quoted

namespace RowQuery

/-- What was found where something else was expected. -/
inductive Found where
  | null
  | bool (b : Bool)
  | num (n : Number)
  | str (s : String)
  | arr
  | obj
deriving DecidableEq

namespace Found

/-- The outermost shape of a tree. -/
def ofJson : Json → Found
  | .null => null
  | .bool b => bool b
  | .num n => num n
  | .str s => str s
  | .arr _ => arr
  | .obj _ => obj

/-- The outermost shape of a draft, if it can be told. -/
def ofDraft? : Draft → Option Found
  | .null => some null
  | .bool b => some (bool b)
  | .num l => (Number.ofLiteral? l).map num
  | .str s => s.map str
  | .arr .. => some arr
  | .obj .. => some obj
  | .broken => none

/-- The wording of what was found. -/
def phrase : Found → String
  | null => "null"
  | bool true => "boolean `true`"
  | bool false => "boolean `false`"
  | num n@(.int ..) => "integer `" ++ String.ofList n.chars ++ "`"
  | num n@(.float ..) => "floating point `" ++ String.ofList n.chars ++ "`"
  | str s => "string " ++ quoted s
  | arr => "sequence"
  | obj => "map"

end Found

/-- JSON of the wrong shape. -/
inductive DataError where
  | invalidType (found : Found) (expected : String)
  | invalidValue (found : Found) (expected : String)
  | invalidLength (length : Nat) (expected : String)
  | missingField (name : String)
  | duplicateField (name : String)
  | unknownVariant (name : String) (known : List String)
  /-- None of the shapes of a choice fits. -/
  | noShape (choice : String)
  | condition (e : ConditionError)
deriving DecidableEq

/-- The wording of a shape error. -/
def DataError.message : DataError → String
  | invalidType found expected => "invalid type: " ++ found.phrase ++ ", expected " ++ expected
  | invalidValue found expected => "invalid value: " ++ found.phrase ++ ", expected " ++ expected
  | invalidLength n expected => "invalid length " ++ toString n ++ ", expected " ++ expected
  | missingField name => "missing field `" ++ name ++ "`"
  | duplicateField name => "duplicate field `" ++ name ++ "`"
  | unknownVariant name known =>
    "unknown variant `" ++ name ++ "`, expected " ++
      " or ".intercalate (known.map fun k => "`" ++ k ++ "`")
  | noShape choice => "data did not match any variant of untagged enum " ++ choice
  | condition e => e.message

/-- Why a text does not decode. -/
inductive TextError where
  /-- The text is not JSON. -/
  | notJson
  /-- The text is JSON of the wrong shape up to here. -/
  | data (e : DataError)
deriving DecidableEq

end RowQuery
