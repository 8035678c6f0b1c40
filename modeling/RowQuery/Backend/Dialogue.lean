/-
  RowQuery — what is asked of a database, as data.

  A `Dialogue α` is a program that sends requests, goes on with the answers, and ends
  with a value. A request is a statement, on the pool or on the open transaction, or a
  control of the transaction. `Dialogue.run` plays a dialogue against a `Backend` and
  keeps the log of its requests.

  * `Reply.toRows` and `Reply.affectedRows` read either kind of answer;
  * `Dialogue.run_bind`: a sequence of dialogues logs and changes the state like the
    one dialogue after the other.
-/
import RowQuery.Scalar

namespace RowQuery

/-! ## Requests and answers -/

/-- A statement: its text, and the values of its marks in order. -/
structure Statement where
  sql : String
  values : List Scalar
deriving DecidableEq

/-- What a database answers to a statement. -/
inductive Reply where
  | rows (rs : List Record)
  /-- The number of rows that changed, and the id of the first row that was added. -/
  | header (affected : UInt64) (insertId : Option Int64)
deriving DecidableEq

namespace Reply

/-- The rows of an answer, none if it has only numbers. -/
def toRows : Reply → List Record
  | rows rs => rs
  | header .. => []

/-- The number of rows that an answer tells of. -/
def affectedRows : Reply → UInt64
  | rows rs => rs.length.toUInt64
  | header affected _ => affected

/-- The id of the first row that was added. -/
def insertId? : Reply → Option Int64
  | rows _ => none
  | header _ insertId => insertId

end Reply

/-- Why a request failed. -/
inductive DriverError where
  | plain (message : String)
  /-- The database refused a statement. -/
  | database (code : Nat) (reason : String)
deriving DecidableEq

namespace DriverError

/-- The wording of a refusal by the database. -/
def detail (code : Nat) (reason : String) : String :=
  "(code: " ++ toString code ++ ") " ++ reason

/-- The wording of a failure. -/
def message : DriverError → String
  | plain message => message
  | database code reason => "error returned from database: " ++ detail code reason

/-- The wordings of the causes behind a failure, nearest first. -/
def causes : DriverError → List String
  | plain _ => []
  | e@(database code reason) => [e.message, detail code reason]

end DriverError

/-- Where a statement is sent. -/
inductive Channel where
  | pool
  | transaction
deriving DecidableEq, Repr

/-- A control of the transaction. -/
inductive Control where
  | begin
  | commit
  | rollback
deriving DecidableEq, Repr

/-- The statement of a control. -/
def Control.sql : Control → String
  | begin => "BEGIN"
  | commit => "COMMIT"
  | rollback => "ROLLBACK"

/-- What is sent to a database. -/
inductive Request where
  | query (channel : Channel) (s : Statement)
  | control (c : Control)
deriving DecidableEq

/-! ## Dialogues -/

/-- A program that sends requests and goes on with the answers. -/
inductive Dialogue (α : Type) where
  | done (a : α)
  | query (channel : Channel) (s : Statement) (next : Except DriverError Reply → Dialogue α)
  | control (c : Control) (next : Except DriverError Unit → Dialogue α)

/-- What answers requests, from a state of type `σ`. -/
structure Backend (σ : Type) where
  query : Channel → Statement → σ → Except DriverError Reply × σ
  control : Control → σ → Except DriverError Unit × σ

namespace Dialogue

variable {α β σ : Type}

/-- One dialogue, and then another that depends on its value. -/
def bind : Dialogue α → (α → Dialogue β) → Dialogue β
  | done a, f => f a
  | query channel s next, f => query channel s fun answer => (next answer).bind f
  | control c next, f => control c fun answer => (next answer).bind f

instance : Monad Dialogue where
  pure := done
  bind := bind

/-- The dialogue of one statement. -/
def ask (channel : Channel) (s : Statement) : Dialogue (Except DriverError Reply) :=
  query channel s done

/-- The dialogue of one control. -/
def send (c : Control) : Dialogue (Except DriverError Unit) := control c done

theorem ask_bind (channel : Channel) (s : Statement)
    (f : Except DriverError Reply → Dialogue β) : (ask channel s).bind f = query channel s f := rfl

/-- What a dialogue ends with: its value, the log of its requests, and the state. -/
structure Outcome (α σ : Type) where
  value : α
  log : List Request
  state : σ

/-- A dialogue played against a backend. -/
def run (b : Backend σ) : Dialogue α → σ → Outcome α σ
  | done a, s => ⟨a, [], s⟩
  | query channel q next, s =>
    let (answer, s) := b.query channel q s
    let o := (next answer).run b s
    ⟨o.value, .query channel q :: o.log, o.state⟩
  | control c next, s =>
    let (answer, s) := b.control c s
    let o := (next answer).run b s
    ⟨o.value, .control c :: o.log, o.state⟩

theorem run_query (b : Backend σ) (channel : Channel) (q : Statement)
    (next : Except DriverError Reply → Dialogue α) (s : σ) :
    (query channel q next).run b s =
      let o := (next (b.query channel q s).1).run b (b.query channel q s).2
      ⟨o.value, .query channel q :: o.log, o.state⟩ := rfl

theorem run_control (b : Backend σ) (c : Control) (next : Except DriverError Unit → Dialogue α)
    (s : σ) :
    (control c next).run b s =
      let o := (next (b.control c s).1).run b (b.control c s).2
      ⟨o.value, .control c :: o.log, o.state⟩ := rfl

theorem run_bind (b : Backend σ) (d : Dialogue α) (f : α → Dialogue β) (s : σ) :
    (d.bind f).run b s =
      let o := d.run b s
      let o' := (f o.value).run b o.state
      ⟨o'.value, o.log ++ o'.log, o'.state⟩ := by
  induction d generalizing s with
  | done a => rfl
  | query channel q next ih => simp [bind, run, ih]
  | control c next ih => simp [bind, run, ih]

end Dialogue

end RowQuery
