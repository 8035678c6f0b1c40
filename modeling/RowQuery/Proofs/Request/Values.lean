/-
  RowQuery — requests with other values.

  The values of a request are changed by a function, and nothing else of it is: tables,
  names, operators, the shape of conditions and the keys of records stay. Compilation puts
  values beside the text, so it does not matter whether they are changed before or after.

  * `Condition.mapValues`, `Demand.mapValues`: the change of what is asked;
  * `Clause.mapValues`, `Operation.mapValues`, `Statement.mapValues`: the change of what it
    is compiled to;
  * `Demand.compile_mapValues`: compilation commutes with the change, refusals included;
  * `Operation.statements_mapValues`: so do the statements of an operation.
-/
import RowQuery.Proofs.Collection.Operation
import RowQuery.Proofs.OrderedMap

namespace RowQuery

variable {α β : Type} (f : Scalar → Scalar)

/-! ## Records and conditions -/

/-- A map with other values under the same names. -/
def OrderedMap.map (g : α → β) (m : OrderedMap α) : OrderedMap β where
  entries := m.entries.map fun e => (e.1, g e.2)
  nodup := by
    rw [List.map_map]
    exact m.nodup

theorem OrderedMap.keys_map (g : α → β) (m : OrderedMap α) : (m.map g).keys = m.keys := by
  rw [keys, map, List.map_map]
  rfl

theorem OrderedMap.values_map (g : α → β) (m : OrderedMap α) :
    (m.map g).values = m.values.map g := by
  rw [values, map, values, List.map_map, List.map_map]
  rfl

theorem OrderedMap.get?_map (g : α → β) (m : OrderedMap α) (k : String) :
    (m.map g).get? k = (m.get? k).map g := lookup_map_snd g m.entries k

namespace Condition

mutual

/-- A condition with other values in its comparisons. -/
def mapValues : Condition → Condition
  | leaf c => leaf { c with value := f c.value }
  | group joiner members => group joiner (mapMemberValues members)

/-- Conditions with other values in their comparisons. -/
def mapMemberValues : List Condition → List Condition
  | [] => []
  | c :: cs => c.mapValues :: mapMemberValues cs

end

end Condition

/-! ## Clauses and statements -/

/-- A piece of a statement with other values. -/
def Clause.mapValues (c : Clause) : Clause := ⟨c.text, c.values.map f⟩

/-- A statement with other values. -/
def Statement.mapValues (q : Statement) : Statement := ⟨q.sql, q.values.map f⟩

/-- Clauses that have been changed, or a whole statement that has not. -/
def Input.map (g : α → β) : Input α → Input β
  | compiled c => compiled (g c)
  | raw sql => raw sql

/-- The clauses of a find with other values. -/
def FindClauses.mapValues (c : FindClauses) : FindClauses :=
  { c with filter := c.filter.map (Clause.mapValues f) }

/-- The clause of a count with other values. -/
def CountClauses.mapValues (c : CountClauses) : CountClauses := ⟨c.filter.mapValues f⟩

/-- The clause of a removal with other values. -/
def RemoveClauses.mapValues (c : RemoveClauses) : RemoveClauses := ⟨c.filter.mapValues f⟩

/-- The clauses of a row update with other values. -/
def UpdateClauses.mapValues (c : UpdateClauses) : UpdateClauses :=
  ⟨c.assignments, c.values.map f, c.filter.mapValues f⟩

/-- The clauses of an aggregate with other values. -/
def AggregateClauses.mapValues (c : AggregateClauses) : AggregateClauses :=
  { c with filter := c.filter.map (Clause.mapValues f) }

/-- An operation with other values. -/
def Operation.mapValues : Operation → Operation
  | find input => find (input.map (FindClauses.mapValues f))
  | count input => count (input.map (CountClauses.mapValues f))
  | aggregate c => aggregate (c.mapValues f)
  | insert records => insert (records.map (OrderedMap.map f))
  | remove input => remove (input.map (RemoveClauses.mapValues f))
  | removeAll => removeAll
  | update input => update (input.map (List.map (UpdateClauses.mapValues f)))

/-! ## Demands -/

/-- An optional condition with other values. -/
abbrev Condition.mapValues? : Option Condition → Option Condition := Option.map (mapValues f)

/-- An update with other values in its payloads and conditions. -/
def UpdateRequest.mapValues (r : UpdateRequest) : UpdateRequest :=
  ⟨r.updates.map (OrderedMap.map f), r.conditions.map (Condition.mapValues f)⟩

/-- **A demand with other values**, and else as it was. -/
def Demand.mapValues : Demand → Demand
  | find r => find { r with condition := Condition.mapValues? f r.condition }
  | count r => count ⟨Condition.mapValues? f r.condition⟩
  | aggregate r => aggregate { r with condition := Condition.mapValues? f r.condition }
  | remove r => remove ⟨Condition.mapValues? f r.condition⟩
  | update r => update (r.mapValues f)
  | insert records => insert (records.map (OrderedMap.map f))

/-! ## Compilation of conditions -/

theorem Clause.joined_mapValues (separator : String) (cs : List Clause) :
    joined separator (cs.map (mapValues f)) = (joined separator cs).mapValues f := by
  rw [joined, joined, mapValues, List.map_map, List.flatMap_map, List.map_flatMap]
  rfl

namespace Condition

mutual

/-- **Compilation of a condition commutes with a change of its values.** -/
theorem compile_mapValues : ∀ c : Condition,
    (c.mapValues f).compile = c.compile.map (Clause.mapValues f)
  | .leaf c => by
    rw [mapValues, compile, compile, Comparison.compile, Comparison.compile]
    by_cases h : c.field.isEmpty = true
    · rw [if_pos h, if_pos h]
      rfl
    · rw [if_neg h, if_neg h]
      rfl
  | .group joiner [] => by
    rw [mapValues, mapMemberValues, compile]
    rfl
  | .group joiner (c :: cs) => by
    rw [mapValues, mapMemberValues, compile, compile, compile_mapValues c,
      compileMembers_mapValues cs]
    cases hc : c.compile with
    | error e => rfl
    | ok a =>
      cases hcs : compileMembers cs with
      | error e => rfl
      | ok as => exact congrArg Except.ok (Clause.joined_mapValues f joiner.separator (a :: as))

theorem compileMembers_mapValues : ∀ cs : List Condition,
    compileMembers (mapMemberValues f cs) =
      (compileMembers cs).map (List.map (Clause.mapValues f))
  | [] => by
    rw [mapMemberValues, compileMembers]
    rfl
  | c :: cs => by
    rw [mapMemberValues, compileMembers, compileMembers, compile_mapValues c,
      compileMembers_mapValues cs]
    cases hc : c.compile with
    | error e => rfl
    | ok a =>
      cases hcs : compileMembers cs with
      | error e => rfl
      | ok as => rfl

end

theorem filter?_mapValues (o : Option Condition) :
    filter? (mapValues? f o) = (filter? o).map (Option.map (Clause.mapValues f)) := by
  cases o with
  | none => rfl
  | some c =>
    rw [mapValues?, Option.map_some, filter?, filter?, compile_mapValues]
    cases hc : c.compile with
    | error e => rfl
    | ok a => rfl

end Condition

/-! ## Compilation of requests -/

theorem CountRequest.compile_mapValues (r : CountRequest) :
    compile ⟨Condition.mapValues? f r.condition⟩ =
      r.compile.map (CountClauses.mapValues f) := by
  rw [compile, compile]
  cases r.condition with
  | none => rfl
  | some c =>
    rw [Condition.mapValues?, Option.map_some, Condition.compileOrAlways,
      Condition.compileOrAlways, Condition.compile_mapValues]
    cases hc : c.compile with
    | error e => rfl
    | ok a => rfl

theorem Record.compileUpdate_mapValues (fields : Record) (c : Condition) :
    Record.compileUpdate (OrderedMap.map f fields) (c.mapValues f) =
      (fields.compileUpdate c).map (UpdateClauses.mapValues f) := by
  rw [compileUpdate, compileUpdate, Condition.compile_mapValues, OrderedMap.keys_map,
    OrderedMap.values_map]
  cases hc : c.compile with
  | error e => rfl
  | ok a => rfl

theorem Policy.conditionFor_mapValues (p : Policy) (conditions : List Condition)
    (last : Condition) (index : Nat) :
    p.conditionFor (conditions.map (Condition.mapValues f)) (last.mapValues f) index =
      (p.conditionFor conditions last index).map (Condition.mapValues f) := by
  rw [conditionFor, conditionFor, List.getElem?_map, List.length_map]
  cases conditions[index]? with
  | some c => rfl
  | none => cases p.surplusPayload <;> rfl

/-- Payloads from an index on, with other values. -/
theorem Policy.compilePairs_mapValues (p : Policy) (conditions : List Condition)
    (last : Condition) (index : Nat) (updates : List Record) :
    p.compilePairs (conditions.map (Condition.mapValues f)) (last.mapValues f) index
        (updates.map (OrderedMap.map f)) =
      (p.compilePairs conditions last index updates).map
        (List.map (UpdateClauses.mapValues f)) := by
  induction updates generalizing index with
  | nil => rfl
  | cons fields rest ih =>
    rw [List.map_cons, compilePairs, compilePairs, conditionFor_mapValues, ih]
    cases hc : p.conditionFor conditions last index with
    | error e => rfl
    | ok c =>
      have hf := Record.compileUpdate_mapValues f fields c
      change (Record.compileUpdate (OrderedMap.map f fields) (c.mapValues f) >>= _) = _
      rw [hf]
      change _ = Except.map _ (Record.compileUpdate fields c >>= _)
      cases hu : Record.compileUpdate fields c with
      | error e => rfl
      | ok u =>
        cases hr : p.compilePairs conditions last (index + 1) rest with
        | error e => rfl
        | ok us => rfl

theorem UpdateRequest.compile_mapValues (p : Policy) (r : UpdateRequest) :
    (r.mapValues f).compile p = (r.compile p).map (List.map (UpdateClauses.mapValues f)) := by
  rw [compile, compile, mapValues, List.isEmpty_map, List.getLast?_map]
  by_cases he : r.updates.isEmpty = true
  · rw [if_pos he, if_pos he]
    rfl
  · rw [if_neg he, if_neg he]
    cases hl : r.conditions.getLast? with
    | none => rfl
    | some last => exact Policy.compilePairs_mapValues f p r.conditions last 0 r.updates

/-- **Compilation commutes with a change of values**: it is refused for the same reason, or
    it leads to the same operation with the values changed. -/
theorem Demand.compile_mapValues (p : Policy) (d : Demand) :
    (d.mapValues f).compile p = (d.compile p).map (Operation.mapValues f) := by
  cases d with
  | find r =>
    rw [mapValues, compile, compile, FindRequest.compile, FindRequest.compile,
      Condition.filter?_mapValues]
    cases hc : Condition.filter? r.condition with
    | error e => rfl
    | ok a => rfl
  | count r =>
    rw [mapValues, compile, compile, CountRequest.compile_mapValues]
    cases hc : r.compile with
    | error e => rfl
    | ok a => rfl
  | aggregate r =>
    rw [mapValues, compile, compile, AggregateRequest.compile, AggregateRequest.compile,
      Condition.filter?_mapValues]
    cases hc : Condition.filter? r.condition with
    | error e => rfl
    | ok a => rfl
  | remove r =>
    rw [mapValues, compile, compile, RemoveRequest.compile, RemoveRequest.compile,
      Condition.filter?_mapValues]
    cases hc : Condition.filter? r.condition with
    | error e => rfl
    | ok a => cases a <;> rfl
  | update r =>
    rw [mapValues, compile, compile, UpdateRequest.compile_mapValues]
    cases hc : r.compile p with
    | error e => rfl
    | ok a => rfl
  | insert records => rfl

/-! ## Statements -/

namespace Collection

variable (c : Collection)

theorem findStatement_mapValues (input : Input FindClauses) :
    c.findStatement (input.map (FindClauses.mapValues f)) =
      (c.findStatement input).mapValues f := by
  cases input with
  | raw sql => rfl
  | compiled a =>
    obtain ⟨filter, orderBy, limit⟩ := a
    cases filter <;> rfl

theorem aggregateStatement_mapValues (a : AggregateClauses) :
    c.aggregateStatement (a.mapValues f) = (c.aggregateStatement a).mapValues f := by
  obtain ⟨selectList, filter, groupBy, orderBy⟩ := a
  cases filter <;> rfl

theorem updateStatement_mapValues (u : UpdateClauses) :
    c.updateStatement (u.mapValues f) = (c.updateStatement u).mapValues f := by
  have hbound : (u.mapValues f).bound = u.bound.map f := (List.map_append).symm
  rw [updateStatement, hbound]
  rfl

/-- What a record lacks is null, so null has to stay what it is. -/
theorem insertStatement_mapValues {f : Scalar → Scalar} (hf : f .null = .null)
    (columns : List String) (records : List Record) :
    c.insertStatement columns (records.map (OrderedMap.map f)) =
      (c.insertStatement columns records).mapValues f := by
  have hvalue : ∀ (r : Record) (column : String),
      ((OrderedMap.map f r).get? column).getD .null = f ((r.get? column).getD .null) := by
    intro r column
    rw [OrderedMap.get?_map]
    cases r.get? column with
    | none => exact hf.symm
    | some v => rfl
  have hsql : (c.insertStatement columns (records.map (OrderedMap.map f))).sql =
      (c.insertStatement columns records).sql := by
    change _ ++ ", ".intercalate (List.replicate (records.map _).length _) = _
    rw [List.length_map]
    rfl
  have hvalues : (c.insertStatement columns (records.map (OrderedMap.map f))).values =
      (c.insertStatement columns records).values.map f := by
    change (records.map _).flatMap
        (fun r : Record => columns.map fun column => (r.get? column).getD .null) =
      (records.flatMap fun r => columns.map fun column => (r.get? column).getD .null).map f
    simp only [List.flatMap_map, List.map_flatMap, List.map_map, Function.comp_def, hvalue]
  rw [Statement.mapValues, ← hsql, ← hvalues]

end Collection

/-- **The statements of an operation with other values** are those that it had, with the
    values changed. -/
theorem Operation.statements_mapValues {f : Scalar → Scalar} (hf : f .null = .null)
    (c : Collection) (op : Operation) :
    (op.mapValues f).statements c = (op.statements c).map (Statement.mapValues f) := by
  cases op with
  | find input => exact congrArg (fun q => [q]) (c.findStatement_mapValues f input)
  | count input => cases input <;> rfl
  | aggregate a => exact congrArg (fun q => [q]) (c.aggregateStatement_mapValues f a)
  | insert records =>
    cases records with
    | nil => rfl
    | cons r rs =>
      have hinsert := c.insertStatement_mapValues hf r.keys (r :: rs)
      rw [mapValues, List.map_cons, statements, OrderedMap.keys_map, ← List.map_cons, hinsert]
      rfl
  | remove input =>
    cases input with
    | raw sql => rfl
    | compiled a =>
      change (if _ then _ else _) = List.map _ (if _ then _ else _)
      rw [apply_ite (List.map (Statement.mapValues f))]
      rfl
  | removeAll => rfl
  | update input =>
    cases input with
    | raw sql => rfl
    | compiled us =>
      change List.map _ (List.map _ us) = List.map _ (List.map _ us)
      rw [List.map_map, List.map_map]
      exact List.map_congr_left fun u _ => c.updateStatement_mapValues f u

end RowQuery
