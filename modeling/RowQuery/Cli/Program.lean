/-
  RowQuery — the program behind the command line.

  A task is a dialogue with the database that ends with an output or a failure; files
  and variables are read through `Surroundings`. Before anything is sent, `run` looks at
  the number of connections, then at the policy, then at the request.

  * `Task.dialogue` is the dialogue of a task;
  * `Ending` is how the program ends: `runProgramOn` plays the dialogue of its arguments against
    a backend, `runProgram` against a session.
-/
import RowQuery.Cli.Failure
import RowQuery.Cli.Output
import RowQuery.Collection.Write
import RowQuery.Database.Session

namespace RowQuery

namespace Cli

/-- Where the program finds files and variables. -/
structure Surroundings where
  /-- The text of the file at a path, or why it cannot be read. -/
  fileText : String → Except String String
  setting? : String → Option String

/-! ## Requests -/

/-- The path in an argument that names a file. -/
def argumentPath? (argument : String) : Option String :=
  match argument.toList with
  | '@' :: cs => some (String.ofList cs)
  | _ => none

/-- The text of an argument, which may name a file. -/
def argumentText (w : Surroundings) (argument : String) : Except Failure String :=
  match argumentPath? argument with
  | some path =>
    (w.fileText path).mapError fun why => .plain ("Cannot read " ++ path ++ ": " ++ why)
  | none => .ok argument

/-- What the text of an argument decodes to. -/
def decodeArgument {α : Type} (w : Surroundings) (d : Decoder α) (argument : String) :
    Except Failure α := do
  match d.ofTextViaTree (← argumentText w argument) with
  | .ok a => return a
  | .error (.data e) => throw (.plain e.message)
  | .error .notJson => throw (.unreadable .notJson)

/-- The clauses of a request in an argument. -/
def clausesOf {α β : Type} (w : Surroundings) (d : Decoder α)
    (compile : α → Except RequestError β) (argument : String) : Except Failure β := do
  (compile (← decodeArgument w d argument)).mapError Failure.ofRequest

/-- The clauses of an input, if it is no statement. -/
def inputClauses {α β : Type} (w : Surroundings) (d : Decoder α)
    (compile : α → Except RequestError β) : Input String → Except Failure (Input β)
  | .raw sql => .ok (.raw sql)
  | .compiled argument => (clausesOf w d compile argument).map .compiled

/-- The clauses of a request of a kind, as JSON. -/
def compiledJson (w : Surroundings) (kind : RequestKind) (argument : String) :
    Except Failure Json :=
  match kind with
  | .find => (clausesOf w FindRequest.decoder FindRequest.compile argument).map FindClauses.toJson
  | .count =>
    (clausesOf w CountRequest.decoder CountRequest.compile argument).map CountClauses.toJson
  | .remove =>
    (clausesOf w RemoveRequest.decoder RemoveRequest.compile argument).map RemoveClauses.toJson
  | .update =>
    (clausesOf w UpdateRequest.decoder (UpdateRequest.compile .default) argument).map
      fun cs => .arr (cs.map UpdateClauses.toJson)
  | .aggregate =>
    (clausesOf w AggregateRequest.decoder AggregateRequest.compile argument).map
      AggregateClauses.toJson

/-! ## Settings -/

/-- The value of decimal digits read after a number, if it fits 32 bits; the first
    character that is no digit, or does not fit, is to blame. -/
def connectionDigits (n : Nat) : List Char → Except Failure Nat
  | [] => .ok n
  | c :: cs =>
    if c.isDigit then
      let next := n * 10 + (c.toNat - '0'.toNat)
      if next < 0x100000000 then connectionDigits next cs
      else .error (.plain "number too large to fit in target type")
    else .error (.plain "invalid digit found in string")

/-- The number of connections that a variable asks for. -/
def connections (setting : String) : Except Failure Nat :=
  match setting.toList with
  | [] => .error (.plain "cannot parse integer from empty string")
  | '+' :: c :: cs => connectionDigits 0 (c :: cs)
  | cs => connectionDigits 0 cs

/-- The number of connections without a variable. -/
def defaultConnections : Nat := 5

/-- The variable that sets the number of connections. -/
def connectionsVariable : String := "RQ_MAX_CONNECTIONS"

/-- The number of connections. -/
def connectionsOf (w : Surroundings) : Except Failure Nat :=
  match w.setting? connectionsVariable with
  | none => .ok defaultConnections
  | some value => connections value

/-- The policy in a file, the default without one. -/
def policyOf (w : Surroundings) : Option String → Except Failure Policy
  | none => .ok .default
  | some path =>
    match w.fileText path with
    | .error why => .error (.plain ("Cannot read policy file " ++ path ++ ": " ++ why))
    | .ok s => (Policy.decoder.ofText s).mapError .unreadable

/-- Without connections none is ever free. -/
def connect (connections : Nat) : Except Failure Unit :=
  if connections = 0 then .error (.told Session.busy.message [Session.busy.message]) else .ok ()

/-- The collection of a target. -/
def collectionOf (w : Surroundings) (t : Target) : Except Failure Collection := do
  let connections ← connectionsOf w
  let policy ← policyOf w t.policyFile
  connect connections
  return ⟨t.table, ⟨t.primaryKey, policy⟩⟩

/-! ## Tasks -/

/-- The result of a count, `"NaN"` if it is no number. -/
def countJson (n : RowCount) : Json :=
  match n with
  | .exact n => .num (.ofInt64 n)
  | .nonNumeric => .str "NaN"

/-- A dialogue that begins with a step that may fail. -/
def orFail {α β : Type} (e : Except Failure α) (next : α → Dialogue (Except Failure β)) :
    Dialogue (Except Failure β) :=
  match e with
  | .ok a => next a
  | .error f => .done (.error f)

/-- The result of an operation, as JSON. -/
def resultOf {α : Type} (toJson : α → Json) (d : Dialogue (Except StoreError α)) :
    Dialogue (Except Failure Json) :=
  d.bind fun r => .done ((r.map toJson).mapError Failure.ofStore)

/-- The dialogue of an operation on a collection. -/
def Operation.dialogue (w : Surroundings) (c : Collection) :
    Operation → Dialogue (Except Failure Json)
  | .find input =>
    orFail (inputClauses w FindRequest.decoder FindRequest.compile input) fun i =>
      resultOf recordsToJson (c.find i)
  | .count input =>
    orFail (inputClauses w CountRequest.decoder CountRequest.compile input) fun i =>
      resultOf countJson (c.count i)
  | .remove input =>
    orFail (inputClauses w RemoveRequest.decoder RemoveRequest.compile input) fun i =>
      resultOf RemoveStats.toJson (c.remove i)
  | .removeAll => resultOf RemoveStats.toJson c.removeAll
  | .update input =>
    orFail (inputClauses w UpdateRequest.decoder (UpdateRequest.compile c.options.policy) input)
      fun i => resultOf UpdateStats.toJson (c.update i)
  | .insert records =>
    orFail (decodeArgument w (.list Record.decoder) records) fun rs =>
      resultOf recordsToJson (c.insert rs)
  | .aggregate request =>
    orFail (clausesOf w AggregateRequest.decoder AggregateRequest.compile request) fun cs =>
      resultOf recordsToJson (c.aggregate cs)

/-- The dialogue of a task. -/
def Task.dialogue (w : Surroundings) : Task → Dialogue (Except Failure Json)
  | .compile kind request => .done (compiledJson w kind request)
  | .run target operation =>
    orFail (collectionOf w target) fun c => operation.dialogue w c

/-- The paths of the files that an operation may read. -/
def Operation.paths : Operation → List String
  | .find (.compiled a) | .count (.compiled a) | .remove (.compiled a) | .update (.compiled a)
  | .insert a | .aggregate a => (argumentPath? a).toList
  | .find (.raw _) | .count (.raw _) | .remove (.raw _) | .update (.raw _) | .removeAll => []

/-- The paths of the files that a task may read. -/
def Task.paths : Task → List String
  | .compile _ request => (argumentPath? request).toList
  | .run target operation => target.policyFile.toList ++ operation.paths

/-- The paths of the files that the program may read for arguments. -/
def pathsOf (arguments : List String) : List String :=
  match Invocation.ofArguments arguments with
  | .ok (.task _ task) => task.paths
  | _ => []

/-! ## The program -/

/-- The name and the version of the program. -/
def versionLine : String := "rq 0.1.0"

/-- What the program can be asked for. -/
def usageLines : List String :=
  ["Usage: rq [--format text|json] compile <kind> [params]",
    "       rq [--format text|json] run --table <table> [--primary-key <field>] " ++
      "[--policy <file>] <action> [params] [--raw <sql>]",
    "Kinds: find, count, remove, update, aggregate",
    "Actions: find, count, remove, remove-all, update, insert, aggregate"]

/-- How the program ends. -/
inductive Ending where
  | printed (output : String)
  | failed (f : Failure)
  | refused (e : UsageError)
deriving DecidableEq

namespace Ending

/-- The exit code of the program. -/
def exitCode : Ending → UInt32
  | printed _ => 0
  | failed _ => 1
  | refused _ => 2

/-- What is printed as output. -/
def output : Ending → String
  | printed output => output
  | _ => ""

/-- What is told apart from the output. -/
def told : Ending → Option String
  | printed _ => none
  | failed f => some f.text
  | refused e => some ("error: " ++ e.message)

end Ending

/-- Runs the program on arguments, with a backend. -/
def runProgramOn {σ : Type} (b : Backend σ) (w : Surroundings) (arguments : List String) (s : σ) :
    Ending × σ :=
  match Invocation.ofArguments arguments with
  | .error e => (.refused e, s)
  | .ok .help => (.printed (joinLines usageLines), s)
  | .ok .version => (.printed (joinLines [versionLine]), s)
  | .ok (.task format task) =>
    let o := (task.dialogue w).run b s
    match o.value with
    | .ok j => (.printed (render format j), o.state)
    | .error f => (.failed f, o.state)

/-- Runs the program on arguments, with a database as its backend. -/
def runProgram (w : Surroundings) (arguments : List String) (s : Session) : Ending × Session :=
  runProgramOn Session.backend w arguments s

end Cli

end RowQuery
