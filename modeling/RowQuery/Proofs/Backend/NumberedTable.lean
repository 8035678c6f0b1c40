/-
  RowQuery — tables that number their rows.

  A table has a column that holds the ids of its rows. What is assumed of it is said of the texts
  that a driver is given, and of nothing else: that a query of the rows with an id gives them
  back, and that an insertion which leaves the ids open, if it is carried out, only adds its
  rows, gives them ids one after the other, and tells how many they are and the id of the last.
  So it is with a table that has no triggers and replaces no rows. Of the cells only those are
  spoken of whose columns store the values unchanged.

  * `Sql.equalText`, `Sql.insertText`: the two texts;
  * `idsFrom`: ids one after the other;
  * `NumberedTable`: a table of a driver, with what is assumed of it;
  * `NumberedTable.filter_id`, `NumberedTable.get?_toRecord`: the row of an id, and its record.
-/
import RowQuery.Proofs.Backend.Driver
import RowQuery.Proofs.Database.Tokens
import RowQuery.Proofs.OrderedMap

namespace RowQuery

/-! ## Texts -/

/-- The query of the rows that have a value in a column. -/
def Sql.equalText (table column : String) : String :=
  "SELECT * FROM " ++ table ++ " WHERE " ++ column ++ " = ?"

/-- The insertion of so many rows with columns. -/
def Sql.insertText (table : String) (columns : List String) (n : Nat) : String :=
  "INSERT INTO " ++ table ++ " (" ++ ", ".intercalate columns ++ ") VALUES " ++
    ", ".intercalate
      (List.replicate n ("(" ++ ", ".intercalate (List.replicate columns.length "?") ++ ")"))

/-! ## Rows -/

/-- A row that is stored: its id, and its cells under the names of the columns. -/
structure StoredRow where
  id : Int64
  cells : DriverRow
deriving DecidableEq

/-- A row holds values under names, where the columns keep them. -/
def StoredRow.HoldsAll (row : StoredRow) (keeps : String → Bound → Prop) (names : List String)
    (bounds : List Bound) : Prop :=
  ∀ name b, (name, b) ∈ names.zip bounds → keeps name b →
    ∃ cell, (name, cell) ∈ row.cells ∧ cell.Holds b

/-- So many ids, one after the other. -/
def idsFrom (id : Int64) : Nat → List Int64
  | 0 => []
  | n + 1 => id :: idsFrom (id + 1) n

@[simp] theorem length_idsFrom (id : Int64) (n : Nat) : (idsFrom id n).length = n := by
  induction n generalizing id with
  | zero => rfl
  | succ n ih => rw [idsFrom, List.length_cons, ih]

/-- The last of some ids is as many after the first as there are ids between. -/
theorem getLast?_idsFrom (id : Int64) (n : Nat) :
    (idsFrom id (n + 1)).getLast? = some (id + Int64.ofNat n) := by
  induction n generalizing id with
  | zero => exact congrArg some (Int64.add_zero id).symm
  | succ n ih =>
    have hone : Int64.ofNat 1 = 1 := rfl
    rw [idsFrom, idsFrom, List.getLast?_cons_cons, ← idsFrom, ih, Int64.ofNat_add, hone]
    congr 1
    grind

/-! ## Tables -/

/-- **A table of a driver that numbers its rows**, under plain names, and what is assumed of
    it. -/
structure NumberedTable {σ : Type} (e : Engine σ) (table key : String) where
  columns : List String
  /-- The states in which there is the table, and the pool has a connection to give. -/
  Ready : σ → Prop
  rows : σ → List StoredRow
  /-- What a column stores unchanged: the values of the storage class of its type. -/
  Keeps : String → Bound → Prop
  plain : ∀ name ∈ table :: key :: columns, Database.Token.IsPlain name
  nodup_columns : ∀ {s}, Ready s → columns.Nodup
  /-- The rows have a cell for each column, and ids of their own. -/
  names : ∀ {s}, Ready s → ∀ row ∈ rows s, row.cells.map Prod.fst = columns
  nodup_ids : ∀ {s}, Ready s → ((rows s).map StoredRow.id).Nodup
  /-- The rows with an id are given back, and nothing changes. -/
  selecting : ∀ {s}, Ready s → ∀ id, ∃ x,
    e.run .pool (Sql.equalText table key) [.int id] s = (.ok x, s) ∧
      x.rows = ((rows s).filter fun row => row.id = id).map StoredRow.cells
  /-- Rows that leave their ids open and are inserted go behind the others, with ids one after
      the other; their number is told, and the id of the last. -/
  inserting : ∀ {s s' : σ} {columns' : List String} {matrix : List (List Bound)} {x : Executed},
    Ready s → columns'.Nodup → (∀ name ∈ columns', name ∈ columns) → key ∉ columns' →
    matrix ≠ [] → (∀ bounds ∈ matrix, bounds.length = columns'.length) →
    e.run .pool (Sql.insertText table columns' matrix.length) matrix.flatten s = (.ok x, s') →
    Ready s' ∧ ∃ added, rows s' = rows s ++ added ∧
      (∃ id, added.map StoredRow.id = idsFrom id matrix.length) ∧
      (added.getLast?.map StoredRow.id) = some x.lastId ∧ x.affected.toNat = matrix.length ∧
      List.Forall₂ (fun bounds row => row.HoldsAll Keeps columns' bounds) matrix added

namespace NumberedTable

variable {σ : Type} {e : Engine σ} {table key : String} {t : NumberedTable e table key} {s : σ}

/-- The row of an id is the only one. -/
theorem filter_id (hs : t.Ready s) {row : StoredRow} (h : row ∈ t.rows s) :
    (t.rows s).filter (fun r => r.id = row.id) = [row] := by
  obtain ⟨before, after, hrows⟩ := List.append_of_mem h
  have hnodup := t.nodup_ids hs
  rw [hrows, List.map_append, List.map_cons, List.nodup_append, List.nodup_cons] at hnodup
  obtain ⟨-, ⟨hafter, -⟩, hbefore⟩ := hnodup
  have hnone : ∀ rows : List StoredRow, (∀ r ∈ rows, r.id ≠ row.id) →
      rows.filter (fun r => r.id = row.id) = [] := by
    intro rows hne
    rw [List.filter_eq_nil_iff]
    exact fun r hr => by simp [hne r hr]
  rw [hrows, List.filter_append, hnone before, List.filter_cons, hnone after]
  · simp
  · exact fun r hr heq => hafter (heq ▸ List.mem_map_of_mem hr)
  · exact fun r hr => hbefore r.id (List.mem_map_of_mem hr) row.id List.mem_cons_self

/-- **The record of a row** has the values of its cells under the names of the columns. -/
theorem get?_toRecord (hs : t.Ready s) {row : StoredRow} (hrow : row ∈ t.rows s) {name : String}
    {cell : Cell} (h : (name, cell) ∈ row.cells) :
    row.cells.toRecord.get? name = some cell.toScalar := by
  have hnames : ((row.cells.map fun column => (column.1, column.2.toScalar)).map Prod.fst).Nodup := by
    rw [List.map_map]
    exact (t.names hs row hrow).symm ▸ t.nodup_columns hs
  rw [OrderedMap.get?_eq_some_iff, DriverRow.toRecord, OrderedMap.entries_ofList hnames]
  exact List.mem_map_of_mem (f := fun column : String × Cell => (column.1, column.2.toScalar)) h

end NumberedTable

end RowQuery
