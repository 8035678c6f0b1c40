/-
  RowQuery — a database as a backend.

  A session has one connection. An open transaction works on a copy of the database that
  a commit publishes and a rollback forgets; meanwhile no other request gets the
  connection.

  * `Database.carryOut` carries out one statement; a refused one has changed nothing;
  * `Database.run` carries out the statements of a text one after the other, up to the first
    that is refused;
  * `Session.engine` is the driver of a session, and `Session.backend` answers requests by it.
-/
import RowQuery.Backend.Driver
import RowQuery.Database.Execution

namespace RowQuery

namespace Database

/-- The refusal of a statement, as a failure of its request. -/
def Refusal.failure (r : Refusal) : DriverError := .database r.code r.reason

/-- Carries out a statement; nothing happens if there is nothing in its tokens. -/
def carryOut (values : List Value) (d : Database) (ts : List Token) :
    Except Refusal (Database × List Outcome) := do
  match ← Command.ofTokens ts with
  | some c =>
    let (d, outcome) ← c.run values d
    return (d, [outcome])
  | none => return (d, [])

/-- Carries out statements one after the other, up to the first that is refused. -/
def carryOutAll (values : List Value) :
    Database → List (List Token) → Except Refusal (List Outcome) × Database
  | d, [] => (.ok [], d)
  | d, ts :: more =>
    match d.carryOut values ts with
    | .error r => (.error r, d)
    | .ok (d, first) =>
      let (others, d) := carryOutAll values d more
      (others.map (first ++ ·), d)

/-- What is told of a text by what happened: the rows of all its statements, how many rows
    these have changed together, and the last id. -/
def told (outcomes : List Outcome) : Executed where
  rows := outcomes.flatMap fun o => o.rows.toRows
  affected := (outcomes.foldr (fun (o : Outcome) n => o.affected + n) 0).toUInt64
  lastId := (outcomes.reverse.findSome? Outcome.lastId).getD 0

/-- Carries out the statements of a text. -/
def run (sql : String) (bound : List Bound) (d : Database) :
    Except DriverError Executed × Database :=
  let (result, d) :=
    d.carryOutAll (bound.map Value.ofBound) (Token.statements (Token.ofStatement sql))
  ((result.map told).mapError Refusal.failure, d)

/-- Answers a statement. -/
def execute (d : Database) (q : Statement) : Except DriverError Reply × Database := q.answer run d

end Database

/-- A database, and the copy that an open transaction works on. -/
structure Session where
  published : Database
  transaction : Option Database
deriving DecidableEq

namespace Session

/-- The session of a database. -/
def ofDatabase (d : Database) : Session := ⟨d, none⟩

/-- The only connection is in use. -/
def busy : DriverError := .plain "pool timed out while waiting for an open connection"

/-- There is no transaction. -/
def idle : DriverError := .plain "no transaction is open"

/-- Carries out a text. -/
def run (channel : Channel) (sql : String) (bound : List Bound) (s : Session) :
    Except DriverError Executed × Session :=
  match channel, s.transaction with
  | .pool, none =>
    let (result, d) := s.published.run sql bound
    (result, { s with published := d })
  | .transaction, some copy =>
    let (result, d) := copy.run sql bound
    (result, { s with transaction := some d })
  | .pool, some _ => (.error busy, s)
  | .transaction, none => (.error idle, s)

/-- Answers a control. -/
def control (c : Control) (s : Session) : Except DriverError Unit × Session :=
  match c, s.transaction with
  | .begin, none => (.ok (), { s with transaction := some s.published })
  | .begin, some _ => (.error busy, s)
  | .commit, some copy => (.ok (), ofDatabase copy)
  | .rollback, some _ => (.ok (), ofDatabase s.published)
  | .commit, none | .rollback, none => (.error idle, s)

/-- The driver of a session. -/
def engine : Engine Session := ⟨run, control⟩

/-- The backend that a session is. -/
def backend : Backend Session := engine.backend

/-- Answers a statement. -/
def query (channel : Channel) (q : Statement) (s : Session) : Except DriverError Reply × Session :=
  backend.query channel q s

end Session

end RowQuery
