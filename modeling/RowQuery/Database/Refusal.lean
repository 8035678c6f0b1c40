/-
  RowQuery — why a database refuses a statement.

  A refusal has a code and a wording; all that a statement says wrongly has code 1, and
  a broken constraint has a code of its own.
-/

namespace RowQuery

namespace Database

/-- Why a statement was refused. -/
inductive Refusal where
  /-- The statement ends too early. -/
  | incompleteInput
  /-- The statement cannot go on with this token. -/
  | unexpected (token : String)
  /-- The text from here on begins no token. -/
  | unrecognized (token : String)
  | noSuchTable (name : String)
  | noSuchColumn (name : String)
  | noSuchFunction (name : String)
  | noTables
  | wrongArguments (function : String)
  | misusedAggregate (function : String)
  /-- Several values stand where one is needed. -/
  | rowValueMisused
  | unevenRows
  | tableExists (name : String)
  /-- A new table has two columns of a name. -/
  | duplicateColumn (name : String)
  /-- The table lacks a column that is to be filled. -/
  | noColumnNamed (table column : String)
  | valueCount (table : String) (columns values : Nat)
  | valueCountNamed (values columns : Nat)
  | datatypeMismatch
  | notNull (table column : String)
  | notUnique (table column : String)
  /-- The largest id is in use. -/
  | full
deriving DecidableEq, Repr

namespace Refusal

/-- The code of a refusal. -/
def code : Refusal → Nat
  | datatypeMismatch => 20
  | notNull .. => 1299
  | notUnique .. => 1555
  | full => 13
  | _ => 1

/-- The wording of a refusal. -/
def reason : Refusal → String
  | incompleteInput => "incomplete input"
  | unexpected token => "near \"" ++ token ++ "\": syntax error"
  | unrecognized token => "unrecognized token: \"" ++ token ++ "\""
  | noSuchTable name => "no such table: " ++ name
  | noSuchColumn name => "no such column: " ++ name
  | noSuchFunction name => "no such function: " ++ name
  | noTables => "no tables specified"
  | wrongArguments function => "wrong number of arguments to function " ++ function ++ "()"
  | misusedAggregate function => "misuse of aggregate function " ++ function ++ "()"
  | rowValueMisused => "row value misused"
  | unevenRows => "all VALUES must have the same number of terms"
  | tableExists name => "table " ++ name ++ " already exists"
  | duplicateColumn name => "duplicate column name: " ++ name
  | noColumnNamed table column => "table " ++ table ++ " has no column named " ++ column
  | valueCount table columns values =>
    "table " ++ table ++ " has " ++ toString columns ++ " columns but " ++ toString values ++
      " values were supplied"
  | valueCountNamed values columns =>
    toString values ++ " values for " ++ toString columns ++ " columns"
  | datatypeMismatch => "datatype mismatch"
  | notNull table column => "NOT NULL constraint failed: " ++ table ++ "." ++ column
  | notUnique table column => "UNIQUE constraint failed: " ++ table ++ "." ++ column
  | full => "database or disk is full"

end Refusal

end Database

end RowQuery
