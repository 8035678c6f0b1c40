/-
  RowQuery — writing operations of a collection.

  * `Collection.insert` adds all records with one statement, whose columns are the
    names of the first record; the ids that the database gave are put into the records
    unless the first one brings its own.
  * `Collection.remove` refuses to remove every row unless the policy allows it;
    `Collection.removeAll` does it on purpose.
  * `Collection.update` sends one statement on the pool for one row update. Several
    go into a transaction: all of them are sent, in order, and then a commit if all
    succeeded or else a rollback; what failed is part of the result, not an error.
-/
import RowQuery.Collection.Read

namespace RowQuery

/-! ## Results -/

/-- The JSON number of a count of rows. -/
def countToJson (n : UInt64) : Json := .num (.ofUInt64 n)

/-- The result of a removal. -/
structure RemoveStats where
  deleted : UInt64
deriving DecidableEq

/-- The JSON object of a removal's result. -/
def RemoveStats.toJson (s : RemoveStats) : Json :=
  .obj [("status", .str "success"), ("deletedCount", countToJson s.deleted)]

/-- How far a transaction came. -/
inductive Stage where
  | begin
  | statement
  | commit
deriving DecidableEq, Repr

/-- The name of a stage. -/
def Stage.name : Stage → String
  | begin => "begin"
  | statement => "statement"
  | commit => "commit"

/-- The result of an update. -/
inductive UpdateStats where
  | success (modified : UInt64)
  /-- Nothing was changed. -/
  | failure (stage : Stage) (message : String)
deriving DecidableEq

namespace UpdateStats

/-- Whether an update succeeded. -/
def isSuccess : UpdateStats → Bool
  | success _ => true
  | failure .. => false

/-- The number of rows changed, if the update succeeded. -/
def modified? : UpdateStats → Option UInt64
  | success n => some n
  | failure .. => none

/-- The JSON object of an update's result. -/
def toJson : UpdateStats → Json
  | success n => .obj [("status", .str "success"), ("modifiedCount", countToJson n)]
  | failure stage message =>
    .obj [("status", .str "failure"), ("modifiedCount", .null),
      ("failure", .obj [("stage", .str stage.name), ("message", .str message)])]

end UpdateStats

namespace Collection

variable (c : Collection)

/-! ## Insert -/

/-- So many marks in parentheses. -/
def markGroup (n : Nat) : String := "(" ++ ", ".intercalate (List.replicate n "?") ++ ")"

/-- The statement that adds records with the columns of the first of them; what a record
    lacks is null. -/
def insertStatement (columns : List String) (records : List Record) : Statement where
  sql := "INSERT INTO " ++ c.table ++ " (" ++ ", ".intercalate columns ++ ") VALUES " ++
    ", ".intercalate (List.replicate records.length (markGroup columns.length))
  values := records.flatMap fun r => columns.map fun column => (r.get? column).getD .null

/-- Records with the ids from `id` on under a key. -/
def withIds (key : String) (id : Int64) : List Record → List Record
  | [] => []
  | r :: rs => r.insert key (.int id) :: withIds key (id + 1) rs

/-- Adds records and answers with them, as the database numbered them. -/
def insert (records : List Record) : Dialogue (Except StoreError (List Record)) :=
  match records with
  | [] => .done (.ok [])
  | first :: _ =>
    c.executeAnd (c.insertStatement first.keys records) fun reply =>
      if first.contains c.options.primaryKey then .ok records
      else
        match reply.insertId? with
        | some id => .ok (withIds c.options.primaryKey id records)
        | none => .ok records

/-! ## Remove -/

/-- Sends a removing statement. -/
def delete (s : Statement) : Dialogue (Except StoreError RemoveStats) :=
  c.executeAnd s fun reply => .ok ⟨reply.affectedRows⟩

/-- The head of a removing statement. -/
def deleteHead : String := "DELETE FROM " ++ c.table

/-- Removes the rows that clauses ask for. -/
def remove : Input RemoveClauses → Dialogue (Except StoreError RemoveStats)
  | .raw sql => c.delete (.raw sql)
  | .compiled f =>
    if f.isUnconditioned && c.options.policy.unconditionedRemove = .refuse then
      .done (.error (.unconditionedRemove c.table))
    else c.delete ⟨assemble c.deleteHead [some f.filter.text], f.filter.values⟩

/-- Removes every row. -/
def removeAll : Dialogue (Except StoreError RemoveStats) := c.delete (.raw c.deleteHead)

/-! ## Update -/

/-- The statement of a row update. -/
def updateStatement (f : UpdateClauses) : Statement :=
  ⟨assemble ("UPDATE " ++ c.table ++ " SET " ++ f.set) [some f.filter.text], f.bound⟩

/-- Sends statements on the open transaction, all of them in order, and answers with
    their answers. -/
def sendAll : List Statement → Dialogue (List (Except DriverError Reply))
  | [] => .done []
  | s :: ss => .query .transaction s fun answer =>
    (sendAll ss).bind fun answers => .done (answer :: answers)

/-- The number of rows that answers tell of, or the first failure among them. -/
def tally : List (Except DriverError Reply) → Except DriverError UInt64
  | [] => .ok 0
  | .error e :: _ => .error e
  | .ok reply :: answers =>
    match tally answers with
    | .ok n => .ok (reply.affectedRows + n)
    | .error e => .error e

/-- Ends the transaction after its statements: a commit if all succeeded, else a
    rollback, whose answer does not matter. -/
def conclude : Except DriverError UInt64 → Dialogue UpdateStats
  | .error e => .control .rollback fun _ => .done (.failure .statement e.message)
  | .ok n => .control .commit fun
    | .ok () => .done (.success n)
    | .error e => .done (.failure .commit e.message)

/-- Updates rows in one transaction. -/
def updateTogether (fs : List UpdateClauses) : Dialogue UpdateStats :=
  .control .begin fun
    | .error e => .done (.failure .begin e.message)
    | .ok () => (sendAll (fs.map c.updateStatement)).bind fun answers => conclude (tally answers)

/-- Sends one updating statement on the pool. -/
def updateOne (s : Statement) : Dialogue (Except StoreError UpdateStats) :=
  c.executeAnd s fun reply => .ok (.success reply.affectedRows)

/-- Updates the rows that clauses ask for. -/
def update : Input (List UpdateClauses) → Dialogue (Except StoreError UpdateStats)
  | .raw sql => c.updateOne (.raw sql)
  | .compiled [] => .done (.ok (.success 0))
  | .compiled [f] => c.updateOne (c.updateStatement f)
  | .compiled fs => (c.updateTogether fs).bind fun stats => .done (.ok stats)

/-! ## Transactions -/

/-- Opens a transaction. -/
def beginTransaction : Dialogue (Except StoreError Unit) := c.control .begin

/-- Commits the open transaction. -/
def commitTransaction : Dialogue (Except StoreError Unit) := c.control .commit

/-- Rolls the open transaction back. -/
def rollbackTransaction : Dialogue (Except StoreError Unit) := c.control .rollback

end Collection

end RowQuery
