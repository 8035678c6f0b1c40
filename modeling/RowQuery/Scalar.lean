/-
  RowQuery — the values that statements bind and rows hold, and records of them.

  * `Scalar` is the closed type of values; a list is only the right side of `in`
    and `nin`;
  * `Scalar.ofJson?` reads a value from a JSON tree, which fails exactly where an
    object occurs: an integer beyond a signed word becomes the nearest double;
  * `Scalar.toJson` writes one, a double that is not finite as `null`;
  * a `Record` is a row or a payload, its names in the order in which they came.
-/
import RowQuery.Json.Basic
import RowQuery.OrderedMap

namespace RowQuery

/-- A value that a statement binds or a row holds. -/
inductive Scalar where
  | null
  | bool (b : Bool)
  | int (n : Int64)
  | float (x : Float)
  | text (s : String)
  | list (items : List Scalar)

namespace Scalar

instance : Inhabited Scalar := ⟨null⟩

mutual

/-- Equality of values is decided item by item; doubles are equal when their bits are. -/
def decEq : (a b : Scalar) → Decidable (a = b)
  | null, null => isTrue rfl
  | bool a, bool b => decidable_of_iff (a = b) (by simp)
  | int a, int b => decidable_of_iff (a = b) (by simp)
  | float a, float b => decidable_of_iff (a = b) (by simp)
  | text a, text b => decidable_of_iff (a = b) (by simp)
  | list as, list bs => @decidable_of_iff _ (as = bs) (by simp) (decEqItems as bs)
  | null, bool _ | null, int _ | null, float _ | null, text _ | null, list _
  | bool _, null | bool _, int _ | bool _, float _ | bool _, text _ | bool _, list _
  | int _, null | int _, bool _ | int _, float _ | int _, text _ | int _, list _
  | float _, null | float _, bool _ | float _, int _ | float _, text _ | float _, list _
  | text _, null | text _, bool _ | text _, int _ | text _, float _ | text _, list _
  | list _, null | list _, bool _ | list _, int _ | list _, float _ | list _, text _ =>
    isFalse (by simp)

/-- Equality of lists of values. -/
def decEqItems : (as bs : List Scalar) → Decidable (as = bs)
  | [], [] => isTrue rfl
  | a :: as, b :: bs =>
    match decEq a b, decEqItems as bs with
    | isTrue h, isTrue h' => isTrue (by rw [h, h'])
    | isFalse h, _ => isFalse (by simp [h])
    | _, isFalse h => isFalse (by simp [h])
  | [], _ :: _ | _ :: _, [] => isFalse (by simp)

end

instance : DecidableEq Scalar := decEq

/-! ## From and to JSON -/

mutual

/-- The value of a JSON tree; an object anywhere in it has none. -/
def ofJson? : Json → Option Scalar
  | .null => some null
  | .bool b => some (bool b)
  | .num n =>
    match n.toInt64? with
    | some i => some (int i)
    | none => some (float n.toFloat)
  | .str s => some (text s)
  | .arr items => (ofJsonItems? items).map list
  | .obj _ => none

/-- The values of JSON trees. -/
def ofJsonItems? : List Json → Option (List Scalar)
  | [] => some []
  | j :: js => do return (← ofJson? j) :: (← ofJsonItems? js)

end

mutual

/-- The JSON tree of a value; a double that is not finite is `null`. -/
def toJson : Scalar → Json
  | null => .null
  | bool b => .bool b
  | int n => .num (.ofInt64 n)
  | float x =>
    match Number.ofFloat? x with
    | some n => .num n
    | none => .null
  | text s => .str s
  | list items => .arr (itemsToJson items)

/-- The JSON trees of values. -/
def itemsToJson : List Scalar → List Json
  | [] => []
  | s :: ss => s.toJson :: itemsToJson ss

end

/-- The JSON tree of a list of values. -/
def listToJson (ss : List Scalar) : Json := .arr (itemsToJson ss)

/-! ## Views and constructions -/

/-- Whether a value is null. -/
def isNull : Scalar → Bool
  | null => true
  | _ => false

/-- The integer of a value. -/
def int? : Scalar → Option Int64
  | int n => some n
  | _ => none

/-- The text of a value. -/
def text? : Scalar → Option String
  | text s => some s
  | _ => none

/-- The items of a list value. -/
def items? : Scalar → Option (List Scalar)
  | list items => some items
  | _ => none

/-- The list value of a list. -/
def ofList {α : Type} (ofItem : α → Scalar) (items : List α) : Scalar := list (items.map ofItem)

/-- The value of an optional one, null if there is none. -/
def ofOption {α : Type} (ofItem : α → Scalar) (a : Option α) : Scalar := a.elim null ofItem

end Scalar

/-! ## Records -/

/-- A row or a payload: values under names. -/
abbrev Record := OrderedMap Scalar

/-- The JSON object of a record. -/
def Record.toJson (r : Record) : Json := .obj (r.entries.map fun e => (e.1, e.2.toJson))

/-- The JSON array of records. -/
def recordsToJson (rs : List Record) : Json := .arr (rs.map Record.toJson)

end RowQuery
