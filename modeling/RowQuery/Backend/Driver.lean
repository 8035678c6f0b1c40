/-
  RowQuery — a database behind a driver.

  A driver is given a text and what is bound to its marks; it gives back rows of cells, and
  numbers about what was changed. Before, each list among the values of a statement is spread
  over marks of its own; afterwards each cell is read as a value, by the name of its type.

  * `Bound.ofScalar` is what is bound for a value: a list becomes its JSON text;
  * `Cell.toScalar` is the value of a cell; one that cannot be decoded is null;
  * `Executed.reply` is the answer to a statement: its rows if it is one that returns rows, or
    else numbers, with the id of the first row that an insertion added;
  * `Engine.backend` answers requests by a driver.
-/
import RowQuery.Backend.Dialogue
import RowQuery.Json.Printer
import RowQuery.Sql.Marks
import RowQuery.Sql.Words
import RowQuery.Text.Case
import RowQuery.Text.Utf8

namespace RowQuery

/-! ## What is bound -/

/-- What is bound to a mark. -/
inductive Bound where
  | null
  | bool (b : Bool)
  | int (n : Int64)
  | real (x : Float)
  | text (s : String)
deriving DecidableEq

/-- What is bound for a value. -/
def Bound.ofScalar : Scalar → Bound
  | .null => null
  | .bool b => bool b
  | .int n => int n
  | .float x => real x
  | .text s => text s
  | .list items => text (Scalar.listToJson items).compact

/-! ## What comes back -/

/-- A cell of a row. -/
structure Cell where
  /-- The name of its type; there is none if the cell is null or cannot be looked at. -/
  typeName : Option String
  /-- What it is decoded as, where that succeeds. -/
  int? : Option Int64
  real? : Option Float
  bytes? : Option (List UInt8)
  text? : Option String
deriving DecidableEq

/-- The value of a cell, decoded by the name of its type. -/
def Cell.toScalar (c : Cell) : Scalar :=
  match c.typeName.map asciiUpper with
  | none => .null
  | some "INTEGER" | some "INT" | some "BIGINT" | some "BOOLEAN" => .ofOption .int c.int?
  | some "REAL" | some "FLOAT" | some "DOUBLE" | some "NUMERIC" => .ofOption .float c.real?
  | some "BLOB" => .ofOption (fun bytes => .text (Utf8.text bytes)) c.bytes?
  | some _ => .ofOption .text c.text?

/-- A row that comes back: cells under names. -/
abbrev DriverRow := List (String × Cell)

/-- The record of a row; a name that comes twice has the last value. -/
def DriverRow.toRecord (row : DriverRow) : Record :=
  .ofList (row.map fun column => (column.1, column.2.toScalar))

/-- What a driver tells of a text that was carried out. -/
structure Executed where
  rows : List DriverRow
  /-- How many rows were changed. -/
  affected : UInt64
  /-- The id of the last row that was added. -/
  lastId : Int64
deriving DecidableEq

/-- The answer to a statement. -/
def Executed.reply (sql : String) (e : Executed) : Reply :=
  if Sql.returnsRows sql then .rows (e.rows.map DriverRow.toRecord)
  else
    .header e.affected
      (if Sql.isInsert sql && 0 < e.affected then some (e.lastId - e.affected.toInt64 + 1)
      else none)

/-! ## Drivers -/

variable {σ : Type}

/-- Answers a statement by what carries out texts. -/
def Statement.answer (run : String → List Bound → σ → Except DriverError Executed × σ)
    (q : Statement) (s : σ) : Except DriverError Reply × σ :=
  let (sql, values) := Sql.expand q.sql q.values
  let (result, s) := run sql (values.map Bound.ofScalar) s
  (result.map (Executed.reply sql), s)

/-- A driver: it carries out texts and controls, from a state of type `σ`. -/
structure Engine (σ : Type) where
  run : Channel → String → List Bound → σ → Except DriverError Executed × σ
  control : Control → σ → Except DriverError Unit × σ

/-- The backend that a driver is. -/
def Engine.backend (e : Engine σ) : Backend σ where
  query channel := Statement.answer (e.run channel)
  control := e.control

end RowQuery
