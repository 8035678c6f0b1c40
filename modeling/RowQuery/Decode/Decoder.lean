/-
  RowQuery — decoders of JSON, by two routes.

  A decoder reads a value from a tree, once the whole text has been read, or
  directly from the draft of a text, where the first error in the order of the text
  is the one that is reported. The routes differ in three ways: on the direct one a
  structure refuses a field that comes twice, the values of unknown fields are only
  scanned, and an array that is too long, or an enumerated name that is neither a
  string nor an object of one key, counts as no JSON.

  * `Decoder.ofTree` and `Decoder.ofDraft` are the two routes, `Decoder.ofText` the
    direct one from a text and `Decoder.ofTextViaTree` the other;
  * `Decoder.list`, `Decoder.map`, `Decoder.optional`, `Decoder.names` and
    `Decoder.struct` build decoders from decoders.
-/
import RowQuery.Decode.Error
import RowQuery.Scalar

namespace RowQuery

/-- The two ways to read a value of type `α`. -/
structure Decoder (α : Type) where
  /-- From a tree. -/
  ofTree : Json → Except DataError α
  /-- From a draft that may nest as many containers as the number says. -/
  ofDraft : Nat → Draft → Except TextError α

namespace Decoder

variable {α β : Type}

/-- The value of a text, decoded while the text is read. -/
def ofText (d : Decoder α) (s : String) : Except TextError α :=
  let (draft, ended) := Draft.ofText s
  match d.ofDraft Json.maxDepth draft with
  | .ok a => if ended then .ok a else .error .notJson
  | .error e => .error e

/-- The value of a text, decoded after the whole text has been read as a tree. -/
def ofTextViaTree (d : Decoder α) (s : String) : Except TextError α :=
  match Json.ofText? s with
  | some j => (d.ofTree j).mapError .data
  | none => .error .notJson

/-! ## Single values -/

/-- The decoder that reads a whole tree first on both routes. -/
def viaTree (ofTree : Json → Except DataError α) : Decoder α where
  ofTree := ofTree
  ofDraft depth d :=
    match d.tree? depth with
    | some j => (ofTree j).mapError .data
    | none => .error .notJson

/-- The refusal of a tree of another shape. -/
def mismatch (expected : String) (j : Json) : Except DataError α :=
  .error (.invalidType (.ofJson j) expected)

/-- The refusal of a draft of another shape. -/
def draftMismatch (expected : String) (d : Draft) : Except TextError α :=
  match Found.ofDraft? d with
  | some found => .error (.data (.invalidType found expected))
  | none => .error .notJson

/-- A decoder of values that are no containers, from their outermost shape. -/
def ofFound (read : Found → Except DataError α) : Decoder α where
  ofTree j := read (.ofJson j)
  ofDraft _ d :=
    match Found.ofDraft? d with
    | some found => (read found).mapError .data
    | none => .error .notJson

/-- Unsigned words. -/
def word : Decoder UInt64 := ofFound fun
  | .num n =>
    match n, n.toUInt64? with
    | _, some w => .ok w
    | .int n h, none => .error (.invalidValue (.num (.int n h)) "u64")
    | .float x h, none => .error (.invalidType (.num (.float x h)) "u64")
  | found => .error (.invalidType found "u64")

/-- Strings. -/
def string : Decoder String := ofFound fun
  | .str s => .ok s
  | found => .error (.invalidType found "a string")

/-- The absent value of an enumerated name in object form. -/
def unit : Decoder Unit := ofFound fun
  | .null => .ok ()
  | found => .error (.invalidType found "unit")

/-- Values that a statement binds. -/
def scalar : Decoder Scalar := viaTree fun j =>
  match Scalar.ofJson? j with
  | some s => .ok s
  | none => .error (.noShape "Scalar")

/-- Values that may be `null`. -/
def optional (d : Decoder α) : Decoder (Option α) where
  ofTree
    | .null => .ok none
    | j => (d.ofTree j).map some
  ofDraft depth
    | .null => .ok none
    | draft => (d.ofDraft depth draft).map some

/-! ## Lists and maps -/

/-- The items of a draft array, left to right, and then its end. -/
def draftItems (read : Draft → Except TextError α) (closed : Bool) :
    List Draft → Except TextError (List α)
  | [] => if closed then .ok [] else .error .notJson
  | d :: ds => do return (← read d) :: (← draftItems read closed ds)

/-- Arrays of any length. -/
def list (d : Decoder α) : Decoder (List α) where
  ofTree
    | .arr items => items.mapM d.ofTree
    | j => mismatch "a sequence" j
  ofDraft depth
    | .arr items closed =>
      match depth with
      | 0 => .error .notJson
      | depth + 1 => draftItems (d.ofDraft depth) closed items
    | draft => draftMismatch "a sequence" draft

/-- The members of a tree object, in order. -/
def treeEntries (read : Json → Except DataError α) :
    List (String × Json) → Except DataError (List (String × α))
  | [] => .ok []
  | (k, j) :: ms => do return (k, ← read j) :: (← treeEntries read ms)

/-- The members of a draft object, in order, and then its end. -/
def draftEntries (read : Draft → Except TextError α) (closed : Bool) :
    List (Option String × Draft) → Except TextError (List (String × α))
  | [] => if closed then .ok [] else .error .notJson
  | (none, _) :: _ => .error .notJson
  | (some k, d) :: ms => do return (k, ← read d) :: (← draftEntries read closed ms)

/-- Objects of any keys: a key that is set again keeps its place and takes the new value. -/
def map (d : Decoder α) : Decoder (OrderedMap α) where
  ofTree
    | .obj members => (treeEntries d.ofTree members).map OrderedMap.ofList
    | j => mismatch "a map" j
  ofDraft depth
    | .obj members closed =>
      match depth with
      | 0 => .error .notJson
      | depth + 1 => (draftEntries (d.ofDraft depth) closed members).map OrderedMap.ofList
    | draft => draftMismatch "a map" draft

/-! ## Enumerated names -/

/-- The value of a name among known names. -/
def ofName (known : List (String × α)) (name : String) : Except DataError α :=
  match known.lookup name with
  | some a => .ok a
  | none => .error (.unknownVariant name (known.map Prod.fst))

/-- Enumerated names: a string, or an object whose one key is the name and whose value
    is `null`. -/
def names (known : List (String × α)) : Decoder α where
  ofTree
    | .str name => ofName known name
    | .obj [(name, j)] => do
      let a ← ofName known name
      let _ ← unit.ofTree j
      return a
    | .obj members => .error (.invalidValue (.ofJson (.obj members)) "map with a single key")
    | j => mismatch "string or map" j
  ofDraft depth
    | .str (some name) => (ofName known name).mapError .data
    | .obj ((some name, d) :: more) closed =>
      match depth with
      | 0 => .error .notJson
      | depth + 1 => do
        let a ← (ofName known name).mapError .data
        let _ ← unit.ofDraft depth d
        if closed && more.isEmpty then return a else throw .notJson
    | _ => .error .notJson

/-! ## Structures -/

/-- A field of a structure `σ`: its name, and how what is decoded goes into the
    structure. -/
structure Field (σ : Type) where
  name : String
  ofTree : Json → Except DataError (σ → σ)
  ofDraft : Nat → Draft → Except TextError (σ → σ)

/-- The field of a decoder and a setter. -/
def Field.of {σ : Type} (name : String) (d : Decoder α) (set : α → σ → σ) : Field σ where
  name := name
  ofTree j := (d.ofTree j).map set
  ofDraft depth draft := (d.ofDraft depth draft).map set

/-- How a structure is decoded: its phrase in messages, its value without fields, its
    fields in order, and how many of the first fields have to be given. -/
structure Shape (σ : Type) where
  phrase : String
  blank : σ
  fields : List (Field σ)
  required : Nat

namespace Shape

variable {σ : Type}

/-- The field of a name. -/
def field? (s : Shape σ) (name : String) : Option (Field σ) := s.fields.find? (·.name = name)

/-- The first field that has to be given and is not among the keys. -/
def missing? (s : Shape σ) (keys : List String) : Option DataError :=
  ((s.fields.take s.required).find? fun f => f.name ∉ keys).map fun f => .missingField f.name

/-- The refusal of too few items. -/
def tooShort (s : Shape σ) (given : Nat) : DataError :=
  .invalidLength given (s.phrase ++ " with " ++ toString s.fields.length ++ " elements")

/-- The members of a tree object, put into the structure in order; unknown keys are
    passed over. -/
def treeMembers (s : Shape σ) (a : σ) : List (String × Json) → Except DataError σ
  | [] => .ok a
  | (k, j) :: ms =>
    match s.field? k with
    | some f => do s.treeMembers ((← f.ofTree j) a) ms
    | none => s.treeMembers a ms

/-- The items of a tree array, put into the structure in the order of its fields. -/
def treeItems (a : σ) : List (Field σ) → List Json → Except DataError σ
  | f :: fs, j :: js => do treeItems ((← f.ofTree j) a) fs js
  | _, _ => .ok a

/-- The structure of a tree. -/
def ofTree (s : Shape σ) : Json → Except DataError σ
  | .obj members => do
    let a ← s.treeMembers s.blank members
    match s.missing? (members.map Prod.fst) with
    | some e => .error e
    | none => .ok a
  | .arr items => do
    let a ← treeItems s.blank s.fields items
    if items.length < s.required then .error (s.tooShort items.length)
    else if s.fields.length < items.length then
      .error (.invalidLength items.length "fewer elements in array")
    else .ok a
  | j => mismatch s.phrase j

/-- The members of a draft object, put into the structure in order, where `seen` are the
    known keys before them. -/
def draftMembers (s : Shape σ) (depth : Nat) (closed : Bool) (seen : List String) (a : σ) :
    List (Option String × Draft) → Except TextError σ
  | [] =>
    if closed then
      match s.missing? seen with
      | some e => .error (.data e)
      | none => .ok a
    else .error .notJson
  | (none, _) :: _ => .error .notJson
  | (some k, d) :: ms =>
    match s.field? k with
    | some f =>
      if k ∈ seen then .error (.data (.duplicateField k))
      else do s.draftMembers depth closed (k :: seen) ((← f.ofDraft depth d) a) ms
    | none => if d.scannable then s.draftMembers depth closed seen a ms else .error .notJson

/-- The items of a draft array, put into the structure in the order of its fields, where
    `given` is the number of items before them. -/
def draftItems (s : Shape σ) (depth : Nat) (closed : Bool) (given : Nat) (a : σ) :
    List (Field σ) → List Draft → Except TextError σ
  | f :: fs, d :: ds => do s.draftItems depth closed (given + 1) ((← f.ofDraft depth d) a) fs ds
  | _, [] =>
    if !closed then .error .notJson
    else if given < s.required then .error (.data (s.tooShort given))
    else .ok a
  | [], _ :: _ => .error .notJson

/-- The structure of a draft. -/
def ofDraft (s : Shape σ) (depth : Nat) : Draft → Except TextError σ
  | .obj members closed =>
    match depth with
    | 0 => .error .notJson
    | depth + 1 => s.draftMembers depth closed [] s.blank members
  | .arr items closed =>
    match depth with
    | 0 => .error .notJson
    | depth + 1 => s.draftItems depth closed 0 s.blank s.fields items
  | d => draftMismatch s.phrase d

end Shape

/-- Structures: an object of fields, or an array of the first fields in order. -/
def struct {σ : Type} (s : Shape σ) : Decoder σ := ⟨s.ofTree, s.ofDraft⟩

end Decoder

end RowQuery
