/-
  RowQuery — JSON trees.

  The members of an object are a list of pairs in the order in which their keys
  first came; a tree read from a text has no key twice in one object.

  * `Json.member?` finds a member;
  * `Json.objectFree` says that no object occurs in a tree at any depth.
-/
import RowQuery.Json.Number

namespace RowQuery

/-- A JSON value. -/
inductive Json where
  | null
  | bool (b : Bool)
  | num (n : Number)
  | str (s : String)
  | arr (items : List Json)
  | obj (members : List (String × Json))

namespace Json

instance : Inhabited Json := ⟨null⟩

mutual

/-- Equality of trees is decided member by member. -/
def decEq : (a b : Json) → Decidable (a = b)
  | null, null => isTrue rfl
  | bool a, bool b => decidable_of_iff (a = b) (by simp)
  | num a, num b => decidable_of_iff (a = b) (by simp)
  | str a, str b => decidable_of_iff (a = b) (by simp)
  | arr as, arr bs => @decidable_of_iff _ (as = bs) (by simp) (decEqItems as bs)
  | obj as, obj bs => @decidable_of_iff _ (as = bs) (by simp) (decEqMembers as bs)
  | null, bool _ | null, num _ | null, str _ | null, arr _ | null, obj _
  | bool _, null | bool _, num _ | bool _, str _ | bool _, arr _ | bool _, obj _
  | num _, null | num _, bool _ | num _, str _ | num _, arr _ | num _, obj _
  | str _, null | str _, bool _ | str _, num _ | str _, arr _ | str _, obj _
  | arr _, null | arr _, bool _ | arr _, num _ | arr _, str _ | arr _, obj _
  | obj _, null | obj _, bool _ | obj _, num _ | obj _, str _ | obj _, arr _ =>
    isFalse (by simp)

/-- Equality of lists of trees. -/
def decEqItems : (as bs : List Json) → Decidable (as = bs)
  | [], [] => isTrue rfl
  | a :: as, b :: bs =>
    match decEq a b, decEqItems as bs with
    | isTrue h, isTrue h' => isTrue (by rw [h, h'])
    | isFalse h, _ => isFalse (by simp [h])
    | _, isFalse h => isFalse (by simp [h])
  | [], _ :: _ | _ :: _, [] => isFalse (by simp)

/-- Equality of lists of members. -/
def decEqMembers : (as bs : List (String × Json)) → Decidable (as = bs)
  | [], [] => isTrue rfl
  | (k, a) :: as, (k', b) :: bs =>
    match decEq a b, decEqMembers as bs with
    | isTrue h, isTrue h' => decidable_of_iff (k = k') (by simp [h, h'])
    | isFalse h, _ => isFalse (by simp [h])
    | _, isFalse h => isFalse (by simp [h])
  | [], _ :: _ | _ :: _, [] => isFalse (by simp)

end

instance : DecidableEq Json := decEq

/-- The value of a key among the members of an object. -/
def member? (key : String) (members : List (String × Json)) : Option Json := members.lookup key

/-- The text of a string value. -/
def string? : Json → Option String
  | str s => some s
  | _ => none

/-- An optional value, absent as `null`. -/
def ofOption {α : Type} (toJson : α → Json) : Option α → Json
  | none => null
  | some a => toJson a

/-- A string value for each text. -/
def strings (ss : List String) : Json := arr (ss.map str)

mutual

/-- Whether no object occurs in a tree, at any depth. -/
def objectFree : Json → Bool
  | obj _ => false
  | arr items => objectFreeItems items
  | _ => true

/-- Whether no object occurs in any of the trees. -/
def objectFreeItems : List Json → Bool
  | [] => true
  | j :: js => j.objectFree && objectFreeItems js

end

end Json

end RowQuery
