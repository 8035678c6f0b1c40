/-
  RowQuery — expressions whose names are resolved.

  A term has columns by their places and marks by their values, so that it has a value
  over any group of rows: a column is that of the row which the group shows, and a total
  that of all rows. A comparison with null is unknown, and truths are combined with three
  values.

  * `Term.eval` is the value of a term over a group of rows;
  * `Scope.resolve` resolves the names of an expression, or tells what is wrong with it.
-/
import RowQuery.Database.Affinity
import RowQuery.Database.Aggregate
import RowQuery.Database.Expr
import RowQuery.Database.Pattern

namespace RowQuery

namespace Database

/-- An expression whose names are resolved. -/
inductive Term where
  | value (v : Value)
  | column (place : Nat) (affinity : Option Affinity)
  /-- A total of a term, or of the rows themselves. -/
  | total (a : Aggregate) (argument : Option Term)
  | sum (a b : Term)
  | difference (a b : Term)
  | compare (c : Comparator) (m : Affinity.Meeting) (a b : Term)
  | within (negated : Bool) (m : Affinity.Meeting) (a : Term) (items : List Term)
  | like (negated : Bool) (a pattern : Term)
  | and (a b : Term)
  | or (a b : Term)
  | tuple (ts : List Term)

/-- Rows that are looked at together. -/
structure Group where
  /-- The row that columns are taken from. -/
  shown : List Value
  rows : List (List Value)

/-- The group without rows. -/
def Group.empty : Group := ⟨[], []⟩

/-- The group of one row. -/
def Group.single (row : List Value) : Group := ⟨row, [row]⟩

/-! ## Truths -/

namespace Truth

/-- The conjunction of truths, of which any may be unknown. -/
def and : Option Bool → Option Bool → Option Bool
  | some false, _ | _, some false => some false
  | some true, some true => some true
  | _, _ => none

/-- The disjunction of truths, of which any may be unknown. -/
def or : Option Bool → Option Bool → Option Bool
  | some true, _ | _, some true => some true
  | some false, some false => some false
  | _, _ => none

/-- The opposite of a truth if it is negated. -/
def negateIf (negated : Bool) (t : Option Bool) : Option Bool := t.map (· ^^ negated)

/-- Whether some truth of a list holds. -/
def any (ts : List (Option Bool)) : Option Bool := ts.foldr or (some false)

end Truth

/-! ## Computations -/

/-- A computation with numbers: of integers while the result is one of a signed word, and
    of doubles otherwise. -/
def compute (exact : Int → Int → Int) (rounded : Float → Float → Float) (a b : Value) : Value :=
  match a.toNumber, b.toNumber with
  | .null, _ | _, .null => .null
  | .int m, .int n =>
    let r := exact m.toInt n.toInt
    if Number.minInt64 ≤ r ∧ r ≤ Number.maxInt64 then .int (Int64.ofInt r)
    else .ofFloat (rounded (Value.nearestFloat m) (Value.nearestFloat n))
  | a, b => .ofFloat (rounded a.toFloat b.toFloat)

/-- Whether a comparison holds. -/
def comparison (c : Comparator) (m : Affinity.Meeting) (a b : Value) : Option Bool :=
  (m.compare? a b).map c.holds

/-- Whether a text matches a pattern. -/
def likeness (a pattern : Value) : Option Bool := do
  return matchesPattern (← pattern.toText).toList (← a.toText).toList

namespace Term

mutual

/-- The value of a term over a group of rows. -/
def eval (g : Group) : Term → Value
  | value v => v
  | column place _ => (g.shown[place]?).getD .null
  | total a none => a.apply (g.rows.map fun _ => .int 1)
  | total a (some t) => a.apply (g.rows.map fun row => eval (.single row) t)
  | sum a b => compute (· + ·) (· + ·) (eval g a) (eval g b)
  | difference a b => compute (· - ·) (· - ·) (eval g a) (eval g b)
  | compare c m a b => .ofTruth (comparison c m (eval g a) (eval g b))
  | within negated m a items =>
    let v := eval g a
    .ofTruth (Truth.negateIf negated
      (Truth.any ((evalAll g items).map (comparison .eq m v))))
  | like negated a pattern =>
    .ofTruth (Truth.negateIf negated (likeness (eval g a) (eval g pattern)))
  | and a b => .ofTruth (Truth.and (eval g a).truth (eval g b).truth)
  | or a b => .ofTruth (Truth.or (eval g a).truth (eval g b).truth)
  | tuple _ => .null

/-- The values of terms over a group of rows. -/
def evalAll (g : Group) : List Term → List Value
  | [] => []
  | t :: ts => eval g t :: evalAll g ts

end

/-- Whether a row passes a term. -/
def holds (row : List Value) (t : Term) : Bool := (t.eval (.single row)).truth = some true

mutual

/-- Whether a term or a part of it is accepted. -/
def any (p : Term → Bool) : Term → Bool
  | t@(value _) | t@(column ..) | t@(total _ none) => p t
  | t@(total _ (some a)) => p t || any p a
  | t@(sum a b) | t@(difference a b) | t@(compare _ _ a b) | t@(like _ a b) | t@(and a b)
  | t@(or a b) => p t || any p a || any p b
  | t@(within _ _ a items) => p t || any p a || anyItem p items
  | t@(tuple ts) => p t || anyItem p ts

/-- Whether a term of a list or a part of it is accepted. -/
def anyItem (p : Term → Bool) : List Term → Bool
  | [] => false
  | t :: ts => any p t || anyItem p ts

end

/-- Whether a term has a total. -/
def hasTotal (t : Term) : Bool :=
  t.any fun
    | total .. => true
    | _ => false

/-- Whether a term has several values where one is needed. -/
def hasTuple (t : Term) : Bool :=
  t.any fun
    | tuple _ => true
    | _ => false

/-- The affinity of a term: that of the column that it is. -/
def affinity? : Term → Option Affinity
  | column _ affinity => affinity
  | _ => none

end Term

/-! ## Names -/

/-- Whether names are the same, in any ASCII case. -/
def sameName (a b : String) : Bool := asciiLower a = asciiLower b

/-- What the names and marks of an expression stand for. -/
structure Scope where
  /-- The name of the table. -/
  table : String
  columns : List (String × Option Affinity)
  /-- The values of the marks. -/
  values : List Value

/-- How many values an expression has. -/
def Expr.width : Expr → Nat
  | tuple es => es.length
  | _ => 1

namespace Scope

variable (s : Scope)

/-- The column of a name. -/
def column? (name : String) : Option Term := do
  let place ← s.columns.findIdx? fun c => sameName c.1 name
  return .column place ((s.columns[place]?).bind Prod.snd)

/-- The term of a name; one in double quotes that names no column is a text. -/
def name (table : Option String) (column : String) (maybeText : Bool) : Except Refusal Term :=
  match table with
  | none =>
    match s.column? column with
    | some t => .ok t
    | none => if maybeText then .ok (.value (.text column)) else .error (.noSuchColumn column)
  | some table =>
    match s.column? column with
    | some t =>
      if sameName table s.table then .ok t else .error (.noSuchColumn (table ++ "." ++ column))
    | none => .error (.noSuchColumn (table ++ "." ++ column))

/-- The aggregate of a function of so many arguments, or of `*`, where totals are allowed. -/
def aggregate (totals : Bool) (function : String) (arguments : Option Nat) :
    Except Refusal Aggregate :=
  match Aggregate.ofName? (asciiLower function) with
  | none => .error (.noSuchFunction function)
  | some a =>
    if arguments ≠ some 1 ∧ ¬(a = .count ∧ (arguments = none ∨ arguments = some 0)) then
      .error (.wrongArguments function)
    else if totals then .ok a
    else .error (.misusedAggregate function)

mutual

/-- The term of an expression, which may have totals if that is allowed. -/
def resolve (totals : Bool) : Expr → Except Refusal Term
  | .value v => .ok (.value v)
  | .number l => .ok (.value (.ofLiteral l))
  | .mark n => .ok (.value ((s.values[n - 1]?).getD .null))
  | .name table column maybeText => s.name table column maybeText
  | .call function none => do return .total (← aggregate totals function none) none
  | .call function (some args) => do
    let a ← aggregate totals function (some args.length)
    return .total a (← resolveAll false args).head?
  | .negate (.number l) => .ok (.value (.ofLiteral { l with negative := !l.negative }))
  | .negate e => do return .difference (.value (.int 0)) (← resolve totals e)
  | .sum a b => do return .sum (← resolve totals a) (← resolve totals b)
  | .difference a b => do return .difference (← resolve totals a) (← resolve totals b)
  | .compare c a b =>
    if a.width ≠ b.width then .error .rowValueMisused
    else do
      let a ← resolve totals a
      let b ← resolve totals b
      return .compare c (Affinity.between a.affinity? b.affinity?) a b
  | .within negated a items => do
    let a ← resolve totals a
    return .within negated (Affinity.between a.affinity? none) a (← resolveAll totals items)
  | .like negated a pattern => do
    return .like negated (← resolve totals a) (← resolve totals pattern)
  | .and a b => do return .and (← resolve totals a) (← resolve totals b)
  | .or a b => do
    let ta ← resolve totals a
    let tb ← resolve totals b
    return if a.isTrue || b.isTrue then .value (.int 1) else .or ta tb
  | .tuple es => do return .tuple (← resolveAll totals es)

/-- The terms of expressions. -/
def resolveAll (totals : Bool) : List Expr → Except Refusal (List Term)
  | [] => .ok []
  | e :: es => do return (← resolve totals e) :: (← resolveAll totals es)

end

end Scope

/-- Refuses terms of which one has several values where one is needed. -/
def refuseTuples (ts : List Term) : Except Refusal Unit :=
  if ts.any Term.hasTuple then .error .rowValueMisused else .ok ()

end Database

end RowQuery
