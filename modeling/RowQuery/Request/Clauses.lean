/-
  RowQuery — requests compiled to the clauses of statements.

  Compilation only writes text around names; values go beside the text, in the order
  of their marks.

  * A find or an aggregate without a condition has no WHERE clause, a count has one
    that always holds, and a removal has one without text, by which it is recognised.
  * `UpdateRequest.compile` pairs payload `i` with condition `i`; payloads beyond the
    last condition follow the policy, and conditions beyond the last payload are not
    looked at.
  * Empty sort orders and empty group lists leave their clause out.
-/
import RowQuery.Policy
import RowQuery.Request.Basic
import RowQuery.Request.Error

namespace RowQuery

/-- The WHERE clause of an optional condition. -/
def Condition.filter? : Option Condition → Except RequestError (Option Clause)
  | none => .ok none
  | some c =>
    match c.compile with
    | .ok clause => .ok (some clause.filter)
    | .error e => .error (.condition e)

/-- The ORDER BY clause of a sort order that is not empty. -/
def SortOrder.orderBy? (s : SortOrder) : Option String :=
  if s.isEmpty then none
  else some ("ORDER BY " ++ ", ".intercalate (s.entries.map fun e => e.1 ++ " " ++ e.2.sql))

/-! ## Find -/

/-- The clauses of a find. -/
structure FindClauses where
  filter : Option Clause
  orderBy : Option String
  limit : Option String
deriving DecidableEq

namespace FindClauses

/-- The values of the marks of a find. -/
def values (c : FindClauses) : List Scalar := c.filter.elim [] Clause.values

/-- The JSON object of the clauses. -/
def toJson (c : FindClauses) : Json :=
  .obj [("where", .ofOption Clause.toJson c.filter), ("order_by", .ofOption .str c.orderBy),
    ("limit", .ofOption .str c.limit)]

end FindClauses

/-- The LIMIT clause: an offset counts only with a limit, and comes first. -/
def limitClause? : Option UInt64 → Option UInt64 → Option String
  | some limit, some offset => some ("LIMIT " ++ toString offset ++ ", " ++ toString limit)
  | some limit, none => some ("LIMIT " ++ toString limit)
  | none, _ => none

/-- The clauses of a find request. -/
def FindRequest.compile (r : FindRequest) : Except RequestError FindClauses := do
  return ⟨← Condition.filter? r.condition, r.sort.bind SortOrder.orderBy?,
    limitClause? r.limit r.offset⟩

/-! ## Count and remove -/

/-- The clause of a count. -/
structure CountClauses where
  filter : Clause
deriving DecidableEq

/-- The clause of a removal, without text if there is no condition. -/
structure RemoveClauses where
  filter : Clause
deriving DecidableEq

/-- The JSON object of the clause. -/
def CountClauses.toJson (c : CountClauses) : Json := .obj [("where", c.filter.toJson)]

/-- The JSON object of the clause. -/
def RemoveClauses.toJson (c : RemoveClauses) : Json := .obj [("where", c.filter.toJson)]

/-- Whether a removal would remove every row. -/
def RemoveClauses.isUnconditioned (c : RemoveClauses) : Bool := c.filter.isEmpty

/-- The clause of a count request. -/
def CountRequest.compile (r : CountRequest) : Except RequestError CountClauses :=
  match Condition.compileOrAlways r.condition with
  | .ok clause => .ok ⟨clause.filter⟩
  | .error e => .error (.condition e)

/-- The clause of a remove request. -/
def RemoveRequest.compile (r : RemoveRequest) : Except RequestError RemoveClauses := do
  return ⟨(← Condition.filter? r.condition).getD .empty⟩

/-! ## Update -/

/-- The clauses of one row update: assignments and their values, and the rows. -/
structure UpdateClauses where
  assignments : List String
  values : List Scalar
  filter : Clause
deriving DecidableEq

namespace UpdateClauses

/-- The text after SET. -/
def set (c : UpdateClauses) : String := ", ".intercalate c.assignments

/-- The values of all marks: those of the assignments, then those of the condition. -/
def bound (c : UpdateClauses) : List Scalar := c.values ++ c.filter.values

/-- The JSON object of the clauses. -/
def toJson (c : UpdateClauses) : Json :=
  .obj [("assignments", .strings c.assignments), ("values", Scalar.listToJson c.values),
    ("where", c.filter.toJson)]

end UpdateClauses

/-- The clauses of a payload and its condition. -/
def Record.compileUpdate (fields : Record) (c : Condition) : Except RequestError UpdateClauses :=
  match c.compile with
  | .ok clause => .ok ⟨fields.keys.map (· ++ " = ?"), fields.values, clause.filter⟩
  | .error e => .error (.condition e)

/-- The condition of the payload of an index: its own, or what the policy says. -/
def Policy.conditionFor (p : Policy) (conditions : List Condition) (last : Condition)
    (index : Nat) : Except RequestError Condition :=
  match conditions[index]? with
  | some c => .ok c
  | none =>
    match p.surplusPayload with
    | .reuseLast => .ok last
    | .reject => .error (.unpairedPayload index conditions.length)

/-- The clauses of payloads, the first of which has the given index. -/
def Policy.compilePairs (p : Policy) (conditions : List Condition) (last : Condition) :
    Nat → List Record → Except RequestError (List UpdateClauses)
  | _, [] => .ok []
  | index, fields :: rest => do
    let c ← p.conditionFor conditions last index
    return (← fields.compileUpdate c) :: (← p.compilePairs conditions last (index + 1) rest)

/-- The clauses of an update request, one row update for each payload. -/
def UpdateRequest.compile (p : Policy) (r : UpdateRequest) :
    Except RequestError (List UpdateClauses) :=
  if r.updates.isEmpty then .ok []
  else
    match r.conditions.getLast? with
    | some last => p.compilePairs r.conditions last 0 r.updates
    | none => .error (.condition (.malformed .noCondition))

/-! ## Aggregate -/

/-- The clauses of an aggregate. -/
structure AggregateClauses where
  selectList : String
  filter : Option Clause
  groupBy : Option String
  orderBy : Option String
deriving DecidableEq

namespace AggregateClauses

/-- The values of the marks of an aggregate. -/
def values (c : AggregateClauses) : List Scalar := c.filter.elim [] Clause.values

/-- The JSON object of the clauses. -/
def toJson (c : AggregateClauses) : Json :=
  .obj [("select_list", .str c.selectList), ("where", .ofOption Clause.toJson c.filter),
    ("group_by", .ofOption .str c.groupBy), ("sort", .ofOption .str c.orderBy)]

end AggregateClauses

/-- The selectors of an aggregate: function, field, name of the column. -/
def AggregateRequest.selectors (r : AggregateRequest) :
    List (String × Option String × String) :=
  [("SUM", r.sum, "totalSum"), ("AVG", r.average, "averageValue"), ("MIN", r.min, "minValue"),
    ("MAX", r.max, "maxValue"), ("COUNT", r.count, "totalCount")]

/-- The columns that the selectors with a field ask for. -/
def AggregateRequest.selected (r : AggregateRequest) : List String :=
  r.selectors.filterMap fun s => s.2.1.map fun field => s.1 ++ "(" ++ field ++ ") AS " ++ s.2.2

/-- The GROUP BY clause of a list of fields that is not empty. -/
def groupByClause? (fields : List String) : Option String :=
  if fields.isEmpty then none else some ("GROUP BY " ++ ", ".intercalate fields)

/-- The clauses of an aggregate request; without selectors all columns are asked for. -/
def AggregateRequest.compile (r : AggregateRequest) : Except RequestError AggregateClauses := do
  let columns := r.selected
  return ⟨if columns.isEmpty then "*" else ", ".intercalate columns,
    ← Condition.filter? r.condition, r.groupBy.bind groupByClause?,
    r.sort.bind SortOrder.orderBy?⟩

end RowQuery
