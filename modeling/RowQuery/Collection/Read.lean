/-
  RowQuery — reading operations of a collection.

  * `Collection.find` and `Collection.aggregate` answer with the rows of one statement;
  * `Collection.count` answers with the integer in the column `count` of the first row,
    or in its first column if there is none of that name; what happens to anything else
    is up to the policy.
-/
import RowQuery.Collection.Basic
import RowQuery.Request.Clauses

namespace RowQuery

/-- The result of a count. -/
inductive RowCount where
  | exact (n : Int64)
  | nonNumeric
deriving DecidableEq

namespace RowCount

/-- The number of a count that is one. -/
def value? : RowCount → Option Int64
  | exact n => some n
  | nonNumeric => none

/-- The JSON value of a count. -/
def toJson : RowCount → Json
  | exact n => .num (.ofInt64 n)
  | nonNumeric => .null

/-- The column that holds the count. -/
def column : String := "count"

/-- The count of rows: the integer in the column of the count, or else in the first
    column, of the first row. -/
def ofRows (rows : List Record) : RowCount :=
  match rows.head?.bind fun row => (row.get? column).or row.values.head? with
  | some (.int n) => exact n
  | _ => nonNumeric

end RowCount

/-- The statement of a whole text. -/
def Statement.raw (sql : String) : Statement := ⟨sql, []⟩

namespace Collection

variable (c : Collection)

/-- The statement of a find. -/
def findStatement : Input FindClauses → Statement
  | .raw sql => .raw sql
  | .compiled f =>
    ⟨assemble ("SELECT * FROM " ++ c.table) [f.filter.map Clause.text, f.orderBy, f.limit],
      f.values⟩

/-- The rows that clauses ask for. -/
def find (input : Input FindClauses) : Dialogue (Except StoreError (List Record)) :=
  c.executeAnd (c.findStatement input) fun reply => .ok reply.toRows

/-- The statement of a count. -/
def countStatement : Input CountClauses → Statement
  | .raw sql => .raw sql
  | .compiled f =>
    ⟨assemble ("SELECT COUNT(*) AS " ++ RowCount.column ++ " FROM " ++ c.table)
      [some f.filter.text], f.filter.values⟩

/-- The number of rows that clauses ask for. -/
def count (input : Input CountClauses) : Dialogue (Except StoreError RowCount) :=
  c.executeAnd (c.countStatement input) fun reply =>
    match RowCount.ofRows reply.toRows, c.options.policy.nonNumericCount with
    | .exact n, _ => .ok (.exact n)
    | .nonNumeric, .sentinel => .ok .nonNumeric
    | .nonNumeric, .error => .error (.nonNumericCount c.table)

/-- The statement of an aggregate. -/
def aggregateStatement (f : AggregateClauses) : Statement :=
  ⟨assemble ("SELECT " ++ f.selectList ++ " FROM " ++ c.table)
    [f.filter.map Clause.text, f.groupBy, f.orderBy], f.values⟩

/-- The totals that clauses ask for. -/
def aggregate (f : AggregateClauses) : Dialogue (Except StoreError (List Record)) :=
  c.executeAnd (c.aggregateStatement f) fun reply => .ok reply.toRows

end Collection

end RowQuery
