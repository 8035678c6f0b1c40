/-
  RowQuery — predicates, as a reader of SQL understands them.

  A predicate is read from the tokens of its text with the usual precedence: parentheses
  and comparisons with a mark are tightest, then AND, then OR; both group to the left. A
  comparison may be true, false or unknown, and so may a predicate.

  * `Predicate.ofText?` reads a whole text, and nothing may be left of it;
  * `Predicate.comparisons` are the comparisons from left to right, `Predicate.truth` the
    truth of a predicate when those of its comparisons are known;
  * `primary_parentheses`, `chain_joined`, `chain_joined_of_lacks`: how the readers take the
    tokens that are in front.
-/
import RowQuery.Condition.Basic
import RowQuery.Database.Term
import RowQuery.Proofs.Database.Reading

namespace RowQuery

open Database Database.Reading

/-- A predicate whose comparisons are of a field with a mark. -/
inductive Predicate where
  | comparison (field operator : String) (mark : Nat)
  | and (a b : Predicate)
  | or (a b : Predicate)
deriving DecidableEq, Repr

namespace Predicate

/-- The comparisons of a predicate: field, operator and number of the mark. -/
def comparisons : Predicate → List (String × String × Nat)
  | comparison field operator mark => [(field, operator, mark)]
  | and a b => a.comparisons ++ b.comparisons
  | or a b => a.comparisons ++ b.comparisons

/-- The truth of a predicate, by those of its comparisons. -/
def truth (v : Nat → Option Bool) : Predicate → Option Bool
  | comparison _ _ mark => v mark
  | and a b => Truth.and (a.truth v) (b.truth v)
  | or a b => Truth.or (a.truth v) (b.truth v)

/-! ## Reading -/

/-- The symbols that compare. -/
def symbols : List String := ["=", "!=", ">", "<", ">=", "<="]

/-- The operator of a comparison. -/
def operatorReading : Reading String := do
  match ← takeIf fun t => symbols.find? t.isSymbol with
  | some s => return s
  | none =>
    if ← keyword? "not" then
      keyword "in"
      return "NOT IN"
    else if ← keyword? "in" then return "IN"
    else
      keyword "like"
      return "LIKE"

/-- The number of a mark. -/
def markOf (t : Token) : Option Nat :=
  match t.kind with
  | .mark n => some n
  | _ => none

/-- A comparison. -/
def comparisonReading : Reading Predicate := do
  let field ← take nameOf
  let operator ← operatorReading
  let mark ← take markOf
  return comparison field.1 operator mark

/-- A comparison, or a predicate in parentheses. -/
def primary (inner : Reading Predicate) : Reading Predicate := do
  if ← symbol? "(" then
    let e ← inner
    symbol ")"
    return e
  else comparisonReading

/-- One more member after a keyword, if the keyword follows. -/
def joined (k : String) (join : Predicate → Predicate → Predicate) (next : Reading Predicate)
    (a : Predicate) : Reading (Option Predicate) := do
  if ← keyword? k then
    let b ← next
    return some (join a b)
  else return none

/-- Comparisons and parentheses with AND between them. -/
def conjunctions (inner : Reading Predicate) : Reading Predicate := do
  let first ← primary inner
  repeated (joined "and" and (primary inner)) first

/-- Conjunctions with OR between them. -/
def disjunctions (inner : Reading Predicate) : Reading Predicate := do
  let first ← conjunctions inner
  repeated (joined "or" or (conjunctions inner)) first

/-- A predicate whose parentheses are nested less than `depth` deep. -/
def nested : Nat → Reading Predicate
  | 0 => refuse
  | depth + 1 => disjunctions (nested depth)

/-- A predicate; parentheses cannot be nested deeper than there are tokens. -/
def reading : Reading Predicate := do
  nested ((← left) + 1)

/-- The predicate that a whole text is. -/
def ofText? (s : String) : Option Predicate :=
  match reading (Token.ofStatement s) with
  | .ok (e, []) => some e
  | _ => none

/-! ## What the readers take -/

variable {α β : Type} {ts ts' rest : List Token}

/-- What is in parentheses is read as it would be without them. -/
theorem primary_parentheses {inner : Reading Predicate} {e : Predicate} {gap : List Char}
    (h : inner (ts ++ ⟨[], ")", .symbol⟩ :: rest) = .ok (e, ⟨[], ")", .symbol⟩ :: rest)) :
    primary inner (⟨gap, "(", .symbol⟩ :: (ts ++ ⟨[], ")", .symbol⟩ :: rest)) = .ok (e, rest) := by
  have hopen : symbol? "(" (⟨gap, "(", .symbol⟩ :: (ts ++ ⟨[], ")", .symbol⟩ :: rest)) =
      .ok (true, ts ++ ⟨[], ")", .symbol⟩ :: rest) := rfl
  have hclose : symbol ")" (⟨[], ")", .symbol⟩ :: rest) = .ok ((), rest) := rfl
  rw [primary, bind_of_ok hopen, if_pos rfl, bind_of_ok h, bind_of_ok hclose]
  rfl

/-- Nothing is joined where the keyword does not follow. -/
theorem chain_joined_of_lacks {k : String} {join : Predicate → Predicate → Predicate}
    {next : Reading Predicate} {a : Predicate} (h : Lacks k ts) (n : Nat) :
    chain (joined k join next) n a ts = .ok (a, ts) := by
  have hstep : joined k join next a ts = .ok (none, ts) := by
    rw [joined, bind_of_ok (keyword?_of_lacks h)]
    rfl
  cases n with
  | zero => rfl
  | succ n =>
    rw [chain, bind_of_ok hstep]
    rfl

/-- A member is joined where the keyword follows. -/
theorem chain_joined {k : String} {join : Predicate → Predicate → Predicate}
    {next : Reading Predicate} {a b : Predicate} {t : Token} (ht : t.isWord k = true)
    (hb : next ts = .ok (b, rest)) (n : Nat) :
    chain (joined k join next) (n + 1) a (t :: ts) =
      chain (joined k join next) n (join a b) rest := by
  have hstep : joined k join next a (t :: ts) = .ok (some (join a b), rest) := by
    rw [joined, bind_of_ok (keyword?_of_isWord ht), if_pos rfl, bind_of_ok hb]
    rfl
  rw [chain, bind_of_ok hstep]

end Predicate

end RowQuery
