/-
  RowQuery — conditions as JSON.

  An object with the key `conditions` is a group, any other a comparison.

  * A group is checked in this order: its operator is a string, a joiner's name, its
    conditions are an array, not empty; then its members, left to right.
  * The field of a comparison is under `field`, or under `left` if there is no key
    `field`; its value under `value` or `right` likewise, and an explicit `null` is a
    value. The operator is checked next, and the value last.
  * `Condition.toJson` writes the canonical spelling of a condition.
-/
import RowQuery.Condition.Basic

namespace RowQuery

namespace Condition

/-- The string under `operator`. -/
def operatorName? (members : List (String × Json)) : Option String :=
  (Json.member? "operator" members).bind Json.string?

/-- The joiner of a group. -/
def joinerOfJson (members : List (String × Json)) : Except ConditionError Joiner :=
  match operatorName? members with
  | none => .error (.malformed .groupWithoutOperator)
  | some name => Joiner.ofName name

/-- The value of a key, or of another key if there is no such key. -/
def eitherMember? (key other : String) (members : List (String × Json)) : Option Json :=
  (Json.member? key members).or (Json.member? other members)

/-- The comparison of an object without the key `conditions`. -/
def comparisonOfJson (members : List (String × Json)) : Except ConditionError Comparison :=
  match eitherMember? "field" "left" members, eitherMember? "value" "right" members with
  | some (.str field), some operand =>
    match operatorName? members with
    | none => .error (.malformed (.leafWithoutOperator field))
    | some name => do
      let operator ← Operator.ofName name
      match Scalar.ofJson? operand with
      | none => .error (.malformed (.unsupportedValue field))
      | some value => .ok ⟨field, operator, value⟩
  | _, _ => .error (.malformed .neitherLeafNorGroup)

mutual

/-- The condition of a JSON tree. -/
def ofJson : Json → Except ConditionError Condition
  | .obj members =>
    match groupOfMembers? members with
    | some conditions => do return group (← joinerOfJson members) (← conditions)
    | none => do return leaf (← comparisonOfJson members)
  | _ => .error (.malformed .notAnObject)

/-- The members of a group, if there is the key `conditions`. -/
def groupOfMembers? : List (String × Json) → Option (Except ConditionError (List Condition))
  | [] => none
  | (key, j) :: members =>
    if key = "conditions" then some (ofConditions j) else groupOfMembers? members

/-- The conditions under the key `conditions`. -/
def ofConditions : Json → Except ConditionError (List Condition)
  | .arr [] => .error (.malformed .noChildren)
  | .arr (j :: js) => do return (← ofJson j) :: (← ofJsonItems js)
  | _ => .error (.malformed .childrenNotAnArray)

/-- The conditions of JSON trees, left to right. -/
def ofJsonItems : List Json → Except ConditionError (List Condition)
  | [] => .ok []
  | j :: js => do return (← ofJson j) :: (← ofJsonItems js)

end

theorem groupOfMembers?_eq (members : List (String × Json)) :
    groupOfMembers? members = (Json.member? "conditions" members).map ofConditions := by
  induction members with
  | nil => rw [groupOfMembers?]; rfl
  | cons m ms ih =>
    obtain ⟨key, j⟩ := m
    rw [groupOfMembers?]
    by_cases h : key = "conditions"
    · subst h
      simp [Json.member?]
    · have : ("conditions" == key) = false := beq_eq_false_iff_ne.2 fun h' => h h'.symm
      simp only [h, if_false, ih, Json.member?, List.lookup_cons, this]

mutual

/-- The canonical JSON tree of a condition. -/
def toJson : Condition → Json
  | leaf c =>
    .obj [("field", .str c.field), ("operator", .str c.operator.name), ("value", c.value.toJson)]
  | group joiner members =>
    .obj [("operator", .str joiner.name), ("conditions", .arr (membersToJson members))]

/-- The canonical JSON trees of conditions. -/
def membersToJson : List Condition → List Json
  | [] => []
  | c :: cs => c.toJson :: membersToJson cs

end

end Condition

end RowQuery
