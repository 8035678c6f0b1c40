/-
  RowQuery — what can be wrong with a condition.

  A cause is kept as data; `ConditionError.message` is its wording.
-/

namespace RowQuery

/-- A defect in the shape of a condition or of an update. -/
inductive Malformation where
  /-- The condition is not a JSON object. -/
  | notAnObject
  /-- A group has no operator, or one that is not a string. -/
  | groupWithoutOperator
  /-- The children of a group are not an array. -/
  | childrenNotAnArray
  /-- A group has no children. -/
  | noChildren
  /-- The comparison of this field has no operator, or one that is not a string. -/
  | leafWithoutOperator (field : String)
  /-- The comparison of this field has an object in its value. -/
  | unsupportedValue (field : String)
  /-- Neither the keys of a comparison nor those of a group are there. -/
  | neitherLeafNorGroup
  /-- A comparison names no field. -/
  | emptyField
  /-- An update has payloads and no condition. -/
  | noCondition
deriving DecidableEq, Repr

/-- The wording of a defect. -/
def Malformation.message : Malformation → String
  | notAnObject => "condition must be a JSON object"
  | groupWithoutOperator => "condition group is missing its operator"
  | childrenNotAnArray => "group conditions must be an array"
  | noChildren => "condition group has no children"
  | leafWithoutOperator field => "condition on '" ++ field ++ "' is missing its operator"
  | unsupportedValue field => "unsupported value for field '" ++ field ++ "'"
  | neitherLeafNorGroup =>
    "expected a leaf \x7bfield, operator, value\x7d or a group \x7boperator, conditions\x7d"
  | emptyField => "condition field is empty"
  | noCondition => "update requires at least one condition"

/-- Why a condition was refused. -/
inductive ConditionError where
  | unsupportedOperator (name : String)
  | unsupportedJoiner (name : String)
  | malformed (defect : Malformation)
deriving DecidableEq, Repr

/-- The wording of a refusal. -/
def ConditionError.message : ConditionError → String
  | unsupportedOperator name => "unsupported operator: " ++ name
  | unsupportedJoiner name => "unsupported boolean joiner: " ++ name
  | malformed defect => "malformed condition: " ++ defect.message

end RowQuery
