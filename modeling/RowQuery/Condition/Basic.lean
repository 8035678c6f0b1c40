/-
  RowQuery — condition trees.

  A condition is a comparison of a field with a value, or a group of conditions
  joined by AND or OR. Groups without members can be built, but not compiled.

  * `Condition.leaves` lists the comparisons in pre-order, and `Condition.leafCount` counts
    them;
  * `Condition.compile` writes a condition as a predicate with one mark per
    comparison, each member of a group in parentheses, and collects the values in
    the order of their marks.
-/
import RowQuery.Condition.Error
import RowQuery.Condition.Operator
import RowQuery.Scalar

namespace RowQuery

/-- The operator of a name, or the refusal of the name. -/
def Operator.ofName (name : String) : Except ConditionError Operator :=
  match Operator.ofName? name with
  | some operator => .ok operator
  | none => .error (.unsupportedOperator name)

/-- The joiner of a name, or the refusal of the name. -/
def Joiner.ofName (name : String) : Except ConditionError Joiner :=
  match Joiner.ofName? name with
  | some joiner => .ok joiner
  | none => .error (.unsupportedJoiner name)

/-- The comparison of a field with a value. -/
structure Comparison where
  field : String
  operator : Operator
  value : Scalar
deriving DecidableEq

/-- A condition on rows. -/
inductive Condition where
  | leaf (c : Comparison)
  | group (joiner : Joiner) (members : List Condition)

namespace Condition

instance : Inhabited Condition := ⟨group .and []⟩

mutual

/-- Equality of conditions is decided member by member. -/
def decEq : (a b : Condition) → Decidable (a = b)
  | leaf a, leaf b => decidable_of_iff (a = b) (by simp)
  | group j as, group k bs =>
    match decEqMembers as bs with
    | isTrue h => decidable_of_iff (j = k) (by simp [h])
    | isFalse h => isFalse (by simp [h])
  | leaf _, group .. | group .., leaf _ => isFalse (by simp)

/-- Equality of lists of conditions. -/
def decEqMembers : (as bs : List Condition) → Decidable (as = bs)
  | [], [] => isTrue rfl
  | a :: as, b :: bs =>
    match decEq a b, decEqMembers as bs with
    | isTrue h, isTrue h' => isTrue (by rw [h, h'])
    | isFalse h, _ => isFalse (by simp [h])
    | _, isFalse h => isFalse (by simp [h])
  | [], _ :: _ | _ :: _, [] => isFalse (by simp)

end

instance : DecidableEq Condition := decEq

/-- The group that holds when all members hold. -/
def and (members : List Condition) : Condition := group .and members

/-- The group that holds when some member holds. -/
def or (members : List Condition) : Condition := group .or members

mutual

/-- The comparisons of a condition, in pre-order. -/
def leaves : Condition → List Comparison
  | leaf c => [c]
  | group _ members => memberLeaves members

/-- The comparisons of conditions, in pre-order. -/
def memberLeaves : List Condition → List Comparison
  | [] => []
  | c :: cs => c.leaves ++ memberLeaves cs

end

mutual

/-- The number of comparisons of a condition. -/
def leafCount : Condition → Nat
  | leaf _ => 1
  | group _ members => memberLeafCount members

/-- The number of comparisons of conditions. -/
def memberLeafCount : List Condition → Nat
  | [] => 0
  | c :: cs => c.leafCount + memberLeafCount cs

end

mutual

theorem length_leaves : ∀ c : Condition, c.leaves.length = c.leafCount
  | leaf _ => rfl
  | group _ members => length_memberLeaves members

theorem length_memberLeaves : ∀ cs : List Condition, (memberLeaves cs).length = memberLeafCount cs
  | [] => rfl
  | c :: cs => by
    rw [memberLeaves, List.length_append, length_leaves c, length_memberLeaves cs, memberLeafCount]

end

end Condition

/-! ## Compilation -/

/-- A piece of a statement: its text, and the values of its marks in order. -/
structure Clause where
  text : String
  values : List Scalar
deriving DecidableEq

namespace Clause

/-- The piece without text and values. -/
def empty : Clause := ⟨"", []⟩

/-- The predicate that holds for every row, for statements that need one. -/
def always : Clause := ⟨"1=1", []⟩

/-- Whether a piece has no text. -/
def isEmpty (c : Clause) : Bool := c.text.isEmpty

/-- A predicate as a WHERE clause. -/
def filter (c : Clause) : Clause := ⟨"WHERE " ++ c.text, c.values⟩

/-- A predicate in parentheses. -/
def parenthesized (c : Clause) : Clause := ⟨"(" ++ c.text ++ ")", c.values⟩

/-- Predicates in parentheses with a separator between them. -/
def joined (separator : String) (cs : List Clause) : Clause :=
  ⟨separator.intercalate (cs.map fun c => c.parenthesized.text), cs.flatMap values⟩

/-- The JSON object of a piece. -/
def toJson (c : Clause) : Json := .obj [("text", .str c.text), ("values", Scalar.listToJson c.values)]

end Clause

/-- The predicate of a comparison. -/
def Comparison.compile (c : Comparison) : Except ConditionError Clause :=
  if c.field.isEmpty then .error (.malformed .emptyField)
  else .ok ⟨c.field ++ " " ++ c.operator.sql ++ " ?", [c.value]⟩

namespace Condition

mutual

/-- The predicate of a condition, refused at the first empty group or empty field name
    in pre-order. -/
def compile : Condition → Except ConditionError Clause
  | leaf c => c.compile
  | group _ [] => .error (.malformed .noChildren)
  | group joiner (c :: cs) => do
    return Clause.joined joiner.separator ((← c.compile) :: (← compileMembers cs))

/-- The predicates of conditions, left to right. -/
def compileMembers : List Condition → Except ConditionError (List Clause)
  | [] => .ok []
  | c :: cs => do return (← c.compile) :: (← compileMembers cs)

end

/-- The predicate of an optional condition, true without one. -/
def compileOrAlways : Option Condition → Except ConditionError Clause
  | none => .ok .always
  | some c => c.compile

end Condition

end RowQuery
