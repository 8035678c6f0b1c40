/-
  RowQuery — the rows that a query asks for.

  A query makes groups of the rows that pass its filter: one of each row, or, with
  totals, one of the rows that agree in the grouping terms. Each group gives a row of
  results; they are sorted, and then cut to the limit. Sorting keeps the order of equal
  rows. A group shows its first row, or the one with its least or greatest value if that
  is asked for.
-/
import RowQuery.Database.Command
import RowQuery.Database.Term

namespace RowQuery

namespace Database

/-- Rows under named columns. -/
structure Relation where
  columns : List (String × Option Affinity)
  rows : List (List Value)
  /-- The place of a column whose values are all different. -/
  key : Option Nat

namespace Relation

/-- One row without columns. -/
def unit : Relation := ⟨[], [[]], none⟩

/-- Rows under the names `column1`, `column2` and so on. -/
def ofRows (width : Nat) (rows : List (List Value)) : Relation :=
  ⟨(List.range width).map fun i => ("column" ++ toString (i + 1), none), rows, none⟩

/-- The rows of a relation, as a driver gives them back. -/
def toRows (r : Relation) : List DriverRow :=
  r.rows.map fun row => (r.columns.map Prod.fst).zip (row.map Cell.ofValue)

end Relation

/-! ## Results -/

/-- A result of a query. -/
structure Output where
  name : String
  /-- Whether the name was given to it. -/
  named : Bool
  term : Term

/-- The name of a result: the one given, a column's own, or its text. -/
def Scope.outputName (s : Scope) (t : Term) (spelling : String) : String :=
  match t with
  | .column place _ => ((s.columns[place]?).map Prod.fst).getD spelling
  | _ => spelling

/-- The results of an item. -/
def Scope.outputs (s : Scope) (totals : Bool) : Item → Except Refusal (List Output)
  | .all =>
    if s.columns.isEmpty then .error .noTables
    else .ok (s.columns.mapIdx fun place c => ⟨c.1, false, .column place c.2⟩)
  | .expr e spelling given => do
    let t ← s.resolve totals e
    return [⟨given.getD (s.outputName t spelling), given.isSome, t⟩]

/-- The results of items. -/
def Scope.allOutputs (s : Scope) (totals : Bool) (items : List Item) :
    Except Refusal (List Output) := do
  return (← items.mapM (s.outputs totals)).flatten

/-- The columns of results. -/
def outputColumns (outputs : List Output) : List (String × Option Affinity) :=
  outputs.map fun o => (o.name, o.term.affinity?)

/-- The row of results of a group of rows. -/
def outputRow (outputs : List Output) (g : Group) : List Value :=
  outputs.map fun o => o.term.eval g

/-- The aggregate and the term by which groups of results choose the row that they show. -/
def chooser? (outputs : List Output) : Option (Ordering × Term) :=
  outputs.reverse.findSome? fun o =>
    match o.term with
    | .total .least (some t) => some (.lt, t)
    | .total .greatest (some t) => some (.gt, t)
    | _ => none

/-- The row whose value comes before those of all others, together with that value; rows
    without a value are only taken while there is no other. -/
def choose (before : Ordering) (t : Term) (best : List Value × Value) :
    List (List Value) → List Value
  | [] => best.1
  | row :: rows =>
    let v := t.eval (.single row)
    choose before t
      (if best.2 = .null || (v ≠ .null && v.order best.2 = before) then (row, v) else best) rows

/-- The group of rows, as results show it. -/
def Group.of (outputs : List Output) (rows : List (List Value)) : Group :=
  match chooser? outputs with
  | some (before, t) => ⟨choose before t ([], .null) rows, rows⟩
  | none => ⟨rows.headD [], rows⟩

/-! ## Sorting and grouping -/

/-- Whether values come no later than others in a sort. -/
def comesFirst : List (Value × SortDirection) → List (Value × SortDirection) → Bool
  | (a, .up) :: as, (b, _) :: bs =>
    match a.order b with
    | .lt => true
    | .eq => comesFirst as bs
    | .gt => false
  | (a, .down) :: as, (b, _) :: bs =>
    match a.order b with
    | .gt => true
    | .eq => comesFirst as bs
    | .lt => false
  | _, _ => true

/-- Groups sorted by terms. -/
def sortGroups (terms : List (Term × SortDirection)) (groups : List Group) : List Group :=
  let keyed := groups.map fun g => (terms.map fun t => (t.1.eval g, t.2), g)
  (keyed.mergeSort fun a b => comesFirst a.1 b.1).map Prod.snd

/-- Whether rows have equal values. -/
def sameValues (as bs : List Value) : Bool :=
  as.length = bs.length && (as.zip bs).all fun p => p.1.order p.2 = .eq

/-- Whether a term is a column at a place. -/
def Term.isColumn (place : Nat) : Term → Bool
  | .column p _ => p = place
  | _ => false

/-- The groups of rows that agree in terms, in the order of their values. -/
def groupRows (terms : List (Term × SortDirection)) (rows : List (List Value)) :
    List (List (List Value)) :=
  let values (g : Group) : List Value := terms.map fun t => t.1.eval g
  ((sortGroups terms (rows.map .single)).splitBy
    fun g g' => sameValues (values g) (values g')).map fun gs => gs.map Group.shown

/-- The directions of grouping terms: those of the sort if it has as many terms. -/
def groupDirections (terms : List Term) (order : List (Term × SortDirection)) :
    List (Term × SortDirection) :=
  if terms.length = order.length then terms.zip (order.map Prod.snd)
  else terms.map fun t => (t, .up)

/-- The groups of rows of a relation, each row by itself if one of the terms is its key. -/
def Relation.group (r : Relation) (terms : List (Term × SortDirection))
    (rows : List (List Value)) : List (List (List Value)) :=
  if r.key.any fun place => terms.any fun t => t.1.isColumn place then rows.map fun row => [row]
  else groupRows terms rows

/-- The term of a sort: a result by its given name, or any term. -/
def Scope.sortTerm (s : Scope) (totals : Bool) (outputs : List Output) (e : Expr) :
    Except Refusal Term :=
  match e with
  | .name none name _ =>
    match outputs.find? fun o => o.named && sameName o.name name with
    | some o => .ok o.term
    | none => s.resolve totals e
  | _ => s.resolve totals e

/-! ## Limits -/

/-- The integer of an expression without columns. -/
def Scope.integer (s : Scope) (e : Expr) : Except Refusal Int := do
  let t ← { s with columns := [] }.resolve false e
  refuseTuples [t]
  match (t.eval .empty).integer? with
  | some n => return n.toInt
  | none => throw .datatypeMismatch

/-- How many rows are passed over, and how many are wanted if not all are. -/
def Scope.window (s : Scope) : Option Limit → Except Refusal (Nat × Option Nat)
  | none => .ok (0, none)
  | some l => do
    let offset ← match l.offset with
      | some e => s.integer e
      | none => .ok 0
    let count ← s.integer l.count
    return (offset.toNat, if count < 0 then none else some count.toNat)

/-- The rows of a window. -/
def cut {α : Type} (window : Nat × Option Nat) (rows : List α) : List α :=
  let rows := rows.drop window.1
  match window.2 with
  | some n => rows.take n
  | none => rows

/-! ## Queries -/

/-- Looks up the rows of a table. -/
abbrev Lookup := String → Except Refusal Relation

/-- The rows of a query of a table. -/
def Select.run (lookup : Lookup) (values : List Value) (q : Select) : Except Refusal Relation := do
  let source ← match q.source with
    | none => .ok Relation.unit
    | some (table, _) => lookup table
  let table := match q.source with
    | none => ""
    | some (table, given) => given.getD table
  let s : Scope := ⟨table, source.columns, values⟩
  let outputs ← s.allOutputs true q.items
  let totals := !q.groups.isEmpty || outputs.any fun o => o.term.hasTotal
  let filter ← q.filter.mapM (s.resolve false)
  let order ← q.order.mapM fun o => do return (← s.sortTerm totals outputs o.1, o.2)
  let groups ← q.groups.mapM (s.resolve false)
  refuseTuples (outputs.map Output.term ++ filter.toList ++ order.map Prod.fst ++ groups)
  let window ← s.window q.limit
  let rows := match filter with
    | none => source.rows
    | some t => source.rows.filter fun row => t.holds row
  let grouped :=
    if !q.groups.isEmpty then
      (source.group (groupDirections groups order) rows).map (Group.of outputs)
    else if totals then [Group.of outputs rows]
    else rows.map .single
  return ⟨outputColumns outputs,
    (cut window (sortGroups order grouped)).map (outputRow outputs), none⟩

/-- The rows of a query. -/
def Query.run (lookup : Lookup) (values : List Value) : Query → Except Refusal Relation
  | .select q => q.run lookup values
  | .values rows => do
    let s : Scope := ⟨"", [], values⟩
    let terms ← rows.mapM (s.resolveAll false)
    refuseTuples terms.flatten
    return .ofRows ((terms.head?.map List.length).getD 0) (terms.map (Term.evalAll .empty))

/-- Looks up named queries, the last first, and then tables; a query is only run if it is
    looked up. -/
def Lookup.withNamed (lookup : Lookup) (values : List Value) (named : List (String × Query)) :
    Lookup :=
  named.foldl (fun lookup q name =>
    if sameName q.1 name then q.2.run lookup values else lookup name) lookup

end Database

end RowQuery
