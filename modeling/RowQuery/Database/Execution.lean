/-
  RowQuery — carrying out a command.

  * `Command.run` changes a database and tells what happened (`Outcome`), or refuses the
    command; what is refused has changed nothing, since nothing but the result of a
    whole command is a database.
-/
import RowQuery.Database.Table

namespace RowQuery

namespace Database

/-- What happened when a command was carried out. -/
structure Outcome where
  /-- The rows that were asked for, or given back. -/
  rows : Relation
  /-- How many rows were changed. -/
  affected : Nat
  /-- The id of the last row that was added, if one was. -/
  lastId : Option Int64

/-- Nothing happened. -/
def Outcome.nothing : Outcome := ⟨⟨[], [], none⟩, 0, none⟩

namespace Table

variable (t : Table) (values : List Value)

/-- What names stand for in a command on a table. -/
def scope : Scope := ⟨t.name, t.heading, values⟩

/-- Whether a row passes a filter, if there is one. -/
def passes (filter : Option Term) (row : Row) : Bool :=
  match filter with
  | none => true
  | some f => f.holds row.cells

/-- What a command gives back of the rows that it changed: none if it asks for nothing of
    them. -/
def given (outputs : List Output) (rows : List Row) : Relation :=
  ⟨outputColumns outputs,
    if outputs.isEmpty then [] else rows.map fun row => outputRow outputs (.single row.cells),
    none⟩

/-! ## Insert -/

/-- The place of each column in the rows that are added, if it has one, where the command
    calls the table by a name. -/
def sources (name : String) (columns : Option (List String)) : Except Refusal (List (Option Nat)) :=
  match columns with
  | none => .ok ((List.range t.columns.length).map some)
  | some names =>
    match names.find? fun name => (t.place? name).isNone with
    | some column => .error (.noColumnNamed name column)
    | none => .ok (t.columns.map fun c => names.findIdx? fun name => sameName name c.name)

/-- Refuses rows that do not have as many values as columns are named. -/
def checkWidth (name : String) (columns : Option (List String)) (width : Nat) :
    Except Refusal Unit :=
  match columns with
  | none =>
    if width = t.columns.length then .ok ()
    else .error (.valueCount name t.columns.length width)
  | some names =>
    if width = names.length then .ok () else .error (.valueCountNamed width names.length)

/-- Adds rows, one after the other. -/
def addRows : Table → List (List Value) → Except Refusal (Table × List Row)
  | t, [] => .ok (t, [])
  | t, vs :: vss => do
    let (t, row) ← t.addRow vs
    let (t, rows) ← addRows t vss
    return (t, row :: rows)

/-- Carries out an insertion. -/
def insert (name : String) (columns : Option (List String)) (rows : List (List Expr))
    (returning : List Item) : Except Refusal (Table × Outcome) := do
  let sources ← t.sources name columns
  let terms ← rows.mapM ({ t.scope values with columns := [] }.resolveAll false)
  t.checkWidth name columns ((rows.head?.map List.length).getD 0)
  let outputs ← (t.scope values).allOutputs false returning
  refuseTuples (terms.flatten ++ outputs.map Output.term)
  let cells := terms.map fun ts =>
    let vs := Term.evalAll .empty ts
    sources.map fun source => (source.bind fun place => vs[place]?).getD .null
  let (t, added) ← t.addRows cells
  return (t, ⟨given outputs added, added.length, added.getLast?.map Row.id⟩)

/-! ## Update -/

/-- The values of a row after assignments, each of the row as it was. -/
def assigned (assignments : List (Nat × Term)) (row : Row) : List Value :=
  assignments.foldl (fun vs a => vs.set a.1 (a.2.eval (.single row.cells))) row.cells

/-- Changes rows, one after the other. -/
def changeRows (assignments : List (Nat × Term)) :
    Table → List Row → Except Refusal (Table × List Row)
  | t, [] => .ok (t, [])
  | t, old :: olds => do
    let (t, row) ← t.changeRow old (assigned assignments old)
    let (t, rows) ← changeRows assignments t olds
    return (t, row :: rows)

/-- The place and the term of an assignment. -/
def assignment (a : String × Expr) : Except Refusal (Nat × Term) := do
  let term ← (t.scope values).resolve false a.2
  match t.place? a.1 with
  | some place => return (place, term)
  | none => throw (.noSuchColumn a.1)

/-- Carries out an update. -/
def update (assignments : List (String × Expr)) (filter : Option Expr) (returning : List Item) :
    Except Refusal (Table × Outcome) := do
  let assignments ← assignments.mapM (t.assignment values)
  let filter ← filter.mapM ((t.scope values).resolve false)
  let outputs ← (t.scope values).allOutputs false returning
  refuseTuples (assignments.map Prod.snd ++ filter.toList ++ outputs.map Output.term)
  let (t, changed) ← t.changeRows assignments (t.rows.filter (passes filter))
  return (t, ⟨given outputs changed, changed.length, none⟩)

/-! ## Delete -/

/-- Carries out a deletion. -/
def delete (filter : Option Expr) (returning : List Item) : Except Refusal (Table × Outcome) := do
  let filter ← filter.mapM ((t.scope values).resolve false)
  let outputs ← (t.scope values).allOutputs false returning
  refuseTuples (filter.toList ++ outputs.map Output.term)
  let deleted := t.rows.filter (passes filter)
  return (t.keepRows fun row => !passes filter row,
    ⟨given outputs deleted, deleted.length, none⟩)

end Table

/-! ## Commands -/

/-- A change of one table of a database. -/
def change (d : Database) (table : String)
    (f : Table → Except Refusal (Table × Outcome)) : Except Refusal (Database × Outcome) := do
  let (t, outcome) ← f (← d.table table)
  return (d.replace t, outcome)

/-- Carries out what follows the named queries of a command. -/
def Action.run (lookup : Lookup) (values : List Value) (d : Database) :
    Action → Except Refusal (Database × Outcome)
  | .query q => do return (d, ⟨← q.run lookup values, 0, none⟩)
  | .createTable name columns =>
    match d.table name, Table.repeatedName? [] (columns.map ColumnDefinition.name) with
    | .ok _, _ => .error (.tableExists name)
    | .error _, some column => .error (.duplicateColumn column)
    | .error _, none => .ok (⟨d.tables ++ [.ofDefinition name columns]⟩, .nothing)
  | .insert table columns rows returning =>
    d.change table fun t => t.insert values table columns rows returning
  | .update table assignments filter returning =>
    d.change table fun t => t.update values assignments filter returning
  | .delete table filter returning => d.change table fun t => t.delete values filter returning

/-- Carries out a command, where marks stand for values. -/
def Command.run (c : Command) (values : List Value) (d : Database) :
    Except Refusal (Database × Outcome) :=
  c.action.run (d.lookup.withNamed values c.named) values d

end Database

end RowQuery
