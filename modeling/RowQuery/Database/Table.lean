/-
  RowQuery — the tables of a database.

  The rows of a table have pairwise different ids and are kept in the order of them. A
  key column holds the id of its row. A new row gets the id after the largest one, or,
  in a table that counts, after the largest that was ever given, if there is one left.

  * `Table.addRow`, `Table.changeRow` and `Table.keepRows` are the changes of one row
    or of several; each checks the constraints of the table.
-/
import RowQuery.Database.Query

namespace RowQuery

namespace Database

/-- A column of a table. -/
structure Column where
  name : String
  affinity : Affinity
  notNull : Bool
deriving DecidableEq, Repr

/-- A row of a table. -/
structure Row where
  id : Int64
  cells : List Value
deriving DecidableEq

/-- A table. -/
structure Table where
  name : String
  columns : List Column
  /-- The place of the column that holds the ids. -/
  key : Option Nat
  /-- Whether ids are never used again. -/
  counts : Bool
  /-- The largest id that was ever given to a row. -/
  lastId : Int64
  rows : List Row
deriving DecidableEq

namespace Table

/-- The first of some names that is one of those before it, or among `seen`. -/
def repeatedName? (seen : List String) : List String → Option String
  | [] => none
  | name :: names =>
    if seen.any (sameName name) then some name else repeatedName? (name :: seen) names

/-- A new table without rows. -/
def ofDefinition (name : String) (columns : List ColumnDefinition) : Table where
  name := name
  columns := columns.map fun c => ⟨c.name, .ofType c.type, c.notNull⟩
  key := columns.findIdx? ColumnDefinition.isKey
  counts := columns.any ColumnDefinition.counts
  lastId := 0
  rows := []

variable (t : Table)

/-- The columns of a table, as a relation has them. -/
def heading : List (String × Option Affinity) := t.columns.map fun c => (c.name, some c.affinity)

/-- The rows of a table, as a relation. -/
def toRelation : Relation := ⟨t.heading, t.rows.map Row.cells, t.key⟩

/-- The place of a column. -/
def place? (column : String) : Option Nat := t.columns.findIdx? fun c => sameName c.name column

/-- The largest id of the rows, or zero. -/
def largestId : Int64 := (t.rows.getLast?.map Row.id).getD 0

/-- The id after which new ones begin: the largest of the rows, or, in a table that counts,
    the largest that was ever given. -/
def ground : Int64 := if t.counts then max t.lastId t.largestId else t.largestId

/-- The id of the next row that does not bring its own, if there is one left. -/
def nextId : Except Refusal Int64 :=
  if t.ground.toInt < Number.maxInt64 then .ok (t.ground + 1) else .error .full

/-- Whether a row has an id. -/
def hasId (id : Int64) : Bool := t.rows.any fun r => r.id = id

/-- Rows with one more, in the order of the ids. -/
def insertRow (row : Row) : List Row → List Row
  | [] => [row]
  | r :: rs => if row.id < r.id then row :: r :: rs else r :: insertRow row rs

/-- The cells that a table keeps for values of a row with an id. -/
def cells (id : Int64) (values : List Value) : List Value :=
  (t.columns.zip values).mapIdx fun place cv =>
    if t.key = some place then .int id else cv.1.affinity.store cv.2

/-- The first column that must not be null and would be. -/
def nullColumn? (row : Row) : Option Column :=
  ((t.columns.zip row.cells).find? fun cv => cv.1.notNull && cv.2 = .null).map Prod.fst

/-- The name of the column that holds the ids. -/
def keyName : String :=
  ((t.key.bind fun place => t.columns[place]?).map Column.name).getD "rowid"

/-- Refuses a row that breaks a constraint; `replaced` is the id of the row whose place
    it takes. -/
def check (row : Row) (replaced : Option Int64) : Except Refusal Unit :=
  match t.nullColumn? row with
  | some c => .error (.notNull t.name c.name)
  | none =>
    if t.hasId row.id && replaced ≠ some row.id then .error (.notUnique t.name t.keyName)
    else .ok ()

/-- The id that values of a row bring, `none` if they leave it open. -/
def ownId (values : List Value) : Except Refusal (Option Int64) :=
  match t.key.bind fun place => values[place]? with
  | none | some .null => .ok none
  | some v =>
    match v.integer? with
    | some id => .ok (some id)
    | none => .error .datatypeMismatch

/-- The table with one more row of the given values, and the id of that row. -/
def addRow (values : List Value) : Except Refusal (Table × Row) := do
  let id ← match ← t.ownId values with
    | some id => .ok id
    | none => t.nextId
  let row : Row := ⟨id, t.cells id values⟩
  t.check row none
  return ({ t with lastId := max t.lastId id, rows := insertRow row t.rows }, row)

/-- The table with other values in a row, and the new row. -/
def changeRow (old : Row) (values : List Value) : Except Refusal (Table × Row) := do
  let id ← match t.key with
    | none => .ok old.id
    | some _ =>
      match ← t.ownId values with
      | some id => .ok id
      | none => .error .datatypeMismatch
  let row : Row := ⟨id, t.cells id values⟩
  t.check row (some old.id)
  return ({ t with rows := insertRow row (t.rows.filter fun r => r.id ≠ old.id) }, row)

/-- The table with only the rows that are kept. -/
def keepRows (keep : Row → Bool) : Table := { t with rows := t.rows.filter keep }

end Table

end Database

/-- The tables of a database. -/
structure Database where
  tables : List Database.Table
deriving DecidableEq

namespace Database

/-- The database without tables. -/
def empty : Database := ⟨[]⟩

variable (d : Database)

/-- The table of a name, in any ASCII case. -/
def table (name : String) : Except Refusal Table :=
  match d.tables.find? fun t => sameName t.name name with
  | some t => .ok t
  | none => .error (.noSuchTable name)

/-- The database with another version of one of its tables. -/
def replace (t : Table) : Database :=
  ⟨d.tables.map fun u => if sameName u.name t.name then t else u⟩

/-- Looks up the rows of a table. -/
def lookup : Lookup := fun name => (d.table name).map Table.toRelation

end Database

end RowQuery
