/-
  RowQuery — collections: one table behind a backend.

  A collection turns compiled clauses into whole statements and answers into results.
  It keeps no state and opens no transaction except for an update of several rows.

  * `assemble` puts clauses that have text after the head of a statement;
  * `StoreError` is why an operation failed, `StoreError.message` its wording;
  * `Collection.execute` sends one statement on the pool.
-/
import RowQuery.Backend.Dialogue
import RowQuery.Policy

namespace RowQuery

/-! ## Options -/

/-- The settings of a collection. -/
structure CollectionOptions where
  /-- The field that receives the ids of added rows. -/
  primaryKey : String
  policy : Policy
deriving DecidableEq

namespace CollectionOptions

/-- The settings without options. -/
def default : CollectionOptions := ⟨"id", .default⟩

instance : Inhabited CollectionOptions := ⟨default⟩

/-- Options as JSON structures. -/
def shape : Decoder.Shape CollectionOptions where
  phrase := "struct CollectionOptions"
  blank := default
  fields :=
    [.of "primaryKey" .string fun v o => { o with primaryKey := v },
     .of "policy" Policy.decoder fun v o => { o with policy := v }]
  required := 0

/-- The decoder of options. -/
def decoder : Decoder CollectionOptions := .struct shape

/-- The JSON object of options. -/
def toJson (o : CollectionOptions) : Json :=
  .obj [("primaryKey", .str o.primaryKey), ("policy", o.policy.toJson)]

end CollectionOptions

/-! ## Errors -/

/-- Why an operation on a table failed. -/
inductive StoreError where
  /-- The database failed the statement. -/
  | execution (table : String) (statement : String) (source : DriverError)
  /-- A removal without a condition was refused. -/
  | unconditionedRemove (table : String)
  /-- A count was not an integer. -/
  | nonNumericCount (table : String)
deriving DecidableEq

namespace StoreError

/-- The code of a failure. -/
def code : StoreError → String
  | execution .. => "EXECUTION_ERROR"
  | unconditionedRemove _ => "UNCONDITIONED_REMOVE"
  | nonNumericCount _ => "NON_NUMERIC_COUNT"

/-- The wording of a failure. -/
def message : StoreError → String
  | execution table _ source => "execution failed on '" ++ table ++ "': " ++ source.message
  | unconditionedRemove table =>
    "refusing to remove every row of '" ++ table ++ "' without a condition; use remove_all"
  | nonNumericCount table => "count on '" ++ table ++ "' returned a non-numeric value"

/-- The wordings of the causes behind a failure, nearest first. -/
def causes : StoreError → List String
  | execution _ _ source => source.message :: source.causes
  | _ => []

end StoreError

/-! ## Collections -/

/-- Clauses, or the text of a whole statement that is sent as it is. -/
inductive Input (clauses : Type) where
  | compiled (c : clauses)
  | raw (sql : String)
deriving DecidableEq

/-- A table and its settings. -/
structure Collection where
  table : String
  options : CollectionOptions
deriving DecidableEq

/-- The head of a statement, and after it the clauses that have text. -/
def assemble (head : String) (clauses : List (Option String)) : String :=
  clauses.foldl (fun sql clause =>
    match clause with
    | some text => if text.isEmpty then sql else sql ++ " " ++ text
    | none => sql) head

namespace Collection

/-- The failure of a statement on the table. -/
def executionError (c : Collection) (statement : String) (source : DriverError) : StoreError :=
  .execution c.table statement source

/-- Sends a statement on the pool. -/
def execute (c : Collection) (s : Statement) : Dialogue (Except StoreError Reply) :=
  (Dialogue.ask .pool s).bind fun
    | .ok reply => .done (.ok reply)
    | .error e => .done (.error (c.executionError s.sql e))

/-- Sends a statement on the pool, and reads the answer. -/
def executeAnd {α : Type} (c : Collection) (s : Statement)
    (read : Reply → Except StoreError α) : Dialogue (Except StoreError α) :=
  (c.execute s).bind fun
    | .ok reply => .done (read reply)
    | .error e => .done (.error e)

/-- Sends a control. -/
def control (c : Collection) (which : Control) : Dialogue (Except StoreError Unit) :=
  (Dialogue.send which).bind fun
    | .ok () => .done (.ok ())
    | .error e => .done (.error (c.executionError which.sql e))

end Collection

end RowQuery
