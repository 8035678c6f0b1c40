/-
  RowQuery — the statements that a database carries out, as they are written.

  * `Query` asks for rows: of a table, of named queries before it, or listed ones;
  * `Command` is a query, or makes, fills, changes or empties a table;
  * `Command.ofTokens` reads a statement, `none` if there is nothing in its tokens;
  * `Token.statements` are the statements of a text, each ended by a semicolon.
-/
import RowQuery.Database.Affinity
import RowQuery.Database.Expr

namespace RowQuery

namespace Database

/-! ## Queries -/

/-- An item of a list of results. -/
inductive Item where
  /-- All columns. -/
  | all
  /-- An expression, its text, and the name that it is given. -/
  | expr (e : Expr) (spelling : String) (given : Option String)

/-- A direction of sorting. -/
inductive SortDirection where
  | up
  | down
deriving DecidableEq, Repr

/-- How many rows are wanted, after how many others. -/
structure Limit where
  count : Expr
  offset : Option Expr

/-- A query of a table, or of a single row without columns. -/
structure Select where
  items : List Item
  /-- The table, and the name that it is given. -/
  source : Option (String × Option String)
  filter : Option Expr
  groups : List Expr
  order : List (Expr × SortDirection)
  limit : Option Limit

/-- What asks for rows. -/
inductive Query where
  | select (s : Select)
  | values (rows : List (List Expr))

/-! ## Commands -/

/-- A column of a new table. -/
structure ColumnDefinition where
  name : String
  type : String
  /-- Whether the column holds the ids of the rows. -/
  isKey : Bool
  /-- Whether ids are never used again. -/
  counts : Bool
  notNull : Bool

/-- A statement after its named queries. -/
inductive Action where
  | query (q : Query)
  | createTable (table : String) (columns : List ColumnDefinition)
  | insert (table : String) (columns : Option (List String)) (rows : List (List Expr))
      (returning : List Item)
  | update (table : String) (assignments : List (String × Expr)) (filter : Option Expr)
      (returning : List Item)
  | delete (table : String) (filter : Option Expr) (returning : List Item)

/-- A statement. -/
structure Command where
  /-- The named queries, which the query may ask. -/
  named : List (String × Query)
  action : Action

/-! ## Reading queries -/

open Reading

/-- Reads an item of a list of results. -/
def Item.reading : Reading Item := do
  if ← symbol? "*" then return .all
  else
    let (e, spelling) ← spelled Expr.reading
    return .expr e spelling (← givenName?)

/-- Reads a term of a sort. -/
def sortTerm : Reading (Expr × SortDirection) := do
  let e ← Expr.reading
  if ← keyword? "desc" then return (e, .down)
  else
    let _ ← keyword? "asc"
    return (e, .up)

/-- Reads a limit, after its keyword: a count and an offset, or the offset first. -/
def Limit.reading : Reading Limit := do
  let first ← Expr.reading
  if ← symbol? "," then return ⟨← Expr.reading, some first⟩
  else if ← keyword? "offset" then return ⟨first, some (← Expr.reading)⟩
  else return ⟨first, none⟩

/-- Reads the table of a query, after its keyword. -/
def tableReading : Reading (String × Option String) := do return (← name, ← givenName?)

/-- Reads a filter, if there is one. -/
def filter? : Reading (Option Expr) := after? "where" Expr.reading

/-- Reads a query of a table, after its keyword. -/
def Select.reading : Reading Select := do
  let items ← commaList Item.reading
  let source ← after? "from" tableReading
  let filter ← filter?
  let groups ← after? "group" do
    keyword "by"
    commaList Expr.reading
  let order ← after? "order" do
    keyword "by"
    commaList sortTerm
  let limit ← after? "limit" Limit.reading
  return ⟨items, source, filter, groups.getD [], order.getD [], limit⟩

/-- Reads rows, after their keyword; all have the same number of values. -/
def rowsReading : Reading (List (List Expr)) := do
  let row := parens (commaList Expr.reading)
  let first ← row
  repeated (fun rows => do
    if ← symbol? "," then
      let next ← row
      if next.length = first.length then return some (rows ++ [next])
      else throw .unevenRows
    else return none) [first]

/-- Reads a query, if one is next. -/
def Query.reading? : Reading (Option Query) := do
  if ← keyword? "select" then return some (.select (← Select.reading))
  else if ← keyword? "values" then return some (.values (← rowsReading))
  else return none

/-- Reads a query. -/
def Query.reading : Reading Query := do
  match ← Query.reading? with
  | some q => return q
  | none => refuse

/-! ## Reading commands -/

/-- Reads the items that a command gives back, none if there are none. -/
def returning : Reading (List Item) := do
  return (← after? "returning" (commaList Item.reading)).getD []

/-- A word of a declared type. -/
def typeWord (t : Token) : Option String := if t.kind = .word then label t else none

/-- Reads the constraints of a column, as far as there are any. -/
def constraint (c : ColumnDefinition) : Reading (Option ColumnDefinition) := do
  if ← keyword? "not" then
    keyword "null"
    return some { c with notNull := true }
  else if asciiLower c.type = "integer" then
    if ← keyword? "primary" then
      keyword "key"
      return some { c with isKey := true, counts := ← keyword? "autoincrement" }
    else return none
  else return none

/-- Reads a column of a new table. -/
def ColumnDefinition.reading : Reading ColumnDefinition := do
  let name ← Reading.name
  let words ← repeated (fun words => do
    return (← takeIf typeWord).map fun word => words ++ [word]) []
  repeated constraint ⟨name, " ".intercalate words, false, false, false⟩

/-- Reads an assignment. -/
def assignment : Reading (String × Expr) := do
  let column ← name
  symbol "="
  return (column, ← Expr.reading)

/-- Reads a command after its named queries. -/
def Action.reading : Reading Action := do
  match ← Query.reading? with
  | some q => return .query q
  | none =>
    if ← keyword? "insert" then
      keyword "into"
      let table ← name
      let columns ← if ← symbol? "(" then
          let columns ← commaList name
          symbol ")"
          pure (some columns)
        else pure none
      keyword "values"
      return .insert table columns (← rowsReading) (← returning)
    else if ← keyword? "update" then
      let table ← name
      keyword "set"
      return .update table (← commaList assignment) (← filter?) (← returning)
    else if ← keyword? "delete" then
      keyword "from"
      return .delete (← name) (← filter?) (← returning)
    else refuse

/-- Reads a named query. -/
def namedQuery : Reading (String × Query) := do
  let name ← Reading.name
  keyword "as"
  return (name, ← parens Query.reading)

/-- Reads a command. -/
def Command.reading : Reading Command := do
  if ← keyword? "create" then
    keyword "table"
    let table ← name
    return ⟨[], .createTable table (← parens (commaList ColumnDefinition.reading))⟩
  else
    let named := (← after? "with" (commaList namedQuery)).getD []
    return ⟨named, ← Action.reading⟩

/-- Tokens without the semicolons at their start. -/
def dropSemicolons (ts : List Token) : List Token := ts.dropWhile fun t => t.isSymbol ";"

/-- The command of a statement, `none` if there is nothing in its tokens; semicolons may
    stand before it and after it. -/
def Command.ofTokens (ts : List Token) : Except Refusal (Option Command) :=
  match dropSemicolons ts with
  | [] => .ok none
  | ts =>
    match Command.reading ts with
    | .ok (command, rest) =>
      match dropSemicolons rest with
      | [] => .ok (some command)
      | rest => .error (Token.refusal rest)
    | .error e => .error e

/-- The statements of a text: its tokens, cut behind each semicolon. -/
def Token.statements : List Token → List (List Token)
  | [] => []
  | t :: ts =>
    if t.isSymbol ";" then [t] :: statements ts
    else
      match statements ts with
      | [] => [[t]]
      | first :: others => (t :: first) :: others

end Database

end RowQuery
