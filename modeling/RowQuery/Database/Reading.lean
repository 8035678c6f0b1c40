/-
  RowQuery — reading tokens.

  A `Reading α` takes tokens from the front of a list and gives an `α`, or tells why the
  statement is refused: always at the first token with which it cannot go on. None of
  the readings gives a token back once it has taken it.
-/
import RowQuery.Database.Token

namespace RowQuery

namespace Database

/-- What takes tokens from the front of a list. -/
abbrev Reading := StateT (List Token) (Except Refusal)

namespace Reading

variable {α : Type}

/-- Refuses the statement at the next token. -/
def refuse : Reading α := fun ts => .error (Token.refusal ts)

/-- The next token, if it is accepted. -/
def takeIf (accept : Token → Option α) : Reading (Option α)
  | [] => .ok (none, [])
  | t :: ts =>
    match accept t with
    | some a => .ok (some a, ts)
    | none => .ok (none, t :: ts)

/-- The next token, which has to be accepted. -/
def take (accept : Token → Option α) : Reading α
  | [] => .error (Token.refusal [])
  | t :: ts =>
    match accept t with
    | some a => .ok (a, ts)
    | none => .error (Token.refusal (t :: ts))

/-- Whether the next token is a keyword, which is then taken. -/
def keyword? (k : String) : Reading Bool := fun ts =>
  match ts with
  | t :: rest => .ok (if t.isWord k then (true, rest) else (false, ts))
  | [] => .ok (false, [])

/-- Whether the next token is a symbol, which is then taken. -/
def symbol? (s : String) : Reading Bool := fun ts =>
  match ts with
  | t :: rest => .ok (if t.isSymbol s then (true, rest) else (false, ts))
  | [] => .ok (false, [])

/-- Takes a keyword. -/
def keyword (k : String) : Reading Unit := do
  if !(← keyword? k) then refuse

/-- Takes keywords, one after the other. -/
def keywords : List String → Reading Unit
  | [] => pure ()
  | k :: ks => do
    keyword k
    keywords ks

/-- Takes a symbol. -/
def symbol (s : String) : Reading Unit := do
  if !(← symbol? s) then refuse

/-- What follows a keyword, if the keyword is next. -/
def after? (k : String) (r : Reading α) : Reading (Option α) := do
  if ← keyword? k then return some (← r) else return none

/-- How many tokens are left. -/
def left : Reading Nat := fun ts => .ok (ts.length, ts)

/-! ## Repetition -/

/-- Goes on from a value for as long as a step can be taken, at most `n` times. -/
def chain (step : α → Reading (Option α)) : Nat → α → Reading α
  | 0, a => pure a
  | n + 1, a => do
    match ← step a with
    | some b => chain step n b
    | none => pure a

/-- Goes on from a value for as long as a step can be taken; each takes a token. -/
def repeated (step : α → Reading (Option α)) (a : α) : Reading α := do
  chain step (← left) a

/-- Items with commas between them. -/
def commaList (item : Reading α) : Reading (List α) := do
  let first ← item
  repeated (fun items => do
    if ← symbol? "," then return some (items ++ [← item]) else return none) [first]

/-- What stands in parentheses. -/
def parens (inside : Reading α) : Reading α := do
  symbol "("
  let a ← inside
  symbol ")"
  return a

/-- What is read, and its text. -/
def spelled (r : Reading α) : Reading (α × String) := fun ts =>
  match r ts with
  | .ok (a, rest) => .ok ((a, Token.span (ts.take (ts.length - rest.length))), rest)
  | .error e => .error e

/-! ## Names -/

/-- The keywords that cannot be names. -/
def reserved : List String :=
  ["add", "all", "alter", "and", "as", "autoincrement", "between", "case", "check", "collate",
    "commit", "constraint", "create", "default", "deferrable", "delete", "distinct", "drop",
    "else", "escape", "except", "exists", "foreign", "from", "group", "having", "in", "index",
    "insert", "intersect", "into", "is", "isnull", "join", "limit", "not", "nothing", "notnull",
    "null", "on", "or", "order", "primary", "references", "returning", "select", "set", "table",
    "then", "to", "transaction", "union", "unique", "update", "using", "values", "when", "where"]

/-- The keywords that join tables, which can be names but no short ones after a table. -/
def joining : List String :=
  ["cross", "full", "indexed", "inner", "left", "natural", "outer", "right"]

/-- The name of a token in an expression, and whether it may stand for a text. -/
def nameOf (t : Token) : Option (String × Bool) :=
  match t.kind with
  | .word => if reserved.contains (asciiLower t.spelling) then none else some (t.spelling, false)
  | .name s maybeText => some (s, maybeText)
  | _ => none

/-- The name of a token where only a name can stand. -/
def label (t : Token) : Option String :=
  match t.kind with
  | .text s => some s
  | _ => (nameOf t).map Prod.fst

/-- The name of a token after what it names. -/
def shortLabel (t : Token) : Option String :=
  if t.kind = .word && joining.contains (asciiLower t.spelling) then none else label t

/-- A name. -/
def name : Reading String := take label

/-- The name that an item gets, if there is one. -/
def givenName? : Reading (Option String) := do
  if ← keyword? "as" then return some (← name) else takeIf shortLabel

end Reading

end Database

end RowQuery
