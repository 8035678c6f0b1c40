/-
  RowQuery — the arguments of the command line.

  The program has commands, and the command `run` has commands of its own. Each level
  has options with a value (`--table t` or `--table=t`) and positional arguments, in any
  order; a value of its own does not begin with `-` unless it is just that, and after
  `--` there are only positional arguments. The output format is an option of every
  level, and the deepest one counts.

  * `Level.read` reads the arguments of one level;
  * `Invocation.ofArguments` is what all the arguments ask for.
-/
import RowQuery.Collection.Basic

namespace RowQuery

namespace Cli

/-! ## What can be asked for -/

/-- A form of output. -/
inductive Format where
  | text
  | json
deriving DecidableEq, Repr

/-- A kind of request. -/
inductive RequestKind where
  | find
  | count
  | remove
  | update
  | aggregate
deriving DecidableEq, Repr

/-- An operation on a table; requests and records are JSON texts, or `@` and the path of
    a file with one. -/
inductive Operation where
  | find (input : Input String)
  | count (input : Input String)
  | remove (input : Input String)
  | removeAll
  | update (input : Input String)
  | insert (records : String)
  | aggregate (request : String)
deriving DecidableEq

/-- The table of an operation, and its settings. -/
structure Target where
  table : String
  primaryKey : String
  policyFile : Option String
deriving DecidableEq

/-- What the program does. -/
inductive Task where
  /-- Compiles a request into clauses. -/
  | compile (kind : RequestKind) (request : String)
  /-- Runs an operation on the database. -/
  | run (target : Target) (operation : Operation)
deriving DecidableEq

/-- What the arguments ask for. -/
inductive Invocation where
  | help
  | version
  | task (format : Format) (task : Task)
deriving DecidableEq

/-- Why arguments are refused. -/
inductive UsageError where
  | unexpected (argument : String)
  | noValue (option : String)
  | repeated (option : String)
  | badValue (name : String) (value : String)
  | missing (what : String)
  | conflict (option : String) (other : String)
deriving DecidableEq, Repr

/-- The wording of a refusal. -/
def UsageError.message : UsageError → String
  | unexpected argument => "unexpected argument '" ++ argument ++ "'"
  | noValue option => "'" ++ option ++ "' needs a value"
  | repeated option => "'" ++ option ++ "' cannot be used twice"
  | badValue name value => "invalid value '" ++ value ++ "' for '" ++ name ++ "'"
  | missing what => "missing " ++ what
  | conflict option other => "'" ++ option ++ "' cannot be used with '" ++ other ++ "'"

/-- Why the reading of arguments ends early. -/
inductive Stop where
  | help
  | version
  | error (e : UsageError)
deriving DecidableEq, Repr

/-! ## One level -/

/-- What a level of the command line takes. -/
structure Level where
  /-- The options beside `--format`. -/
  options : List String
  /-- How many positional arguments there can be. -/
  positionals : Nat
  commands : List String
  /-- Whether the level tells the version. -/
  tellsVersion : Bool

/-- What was read on a level. -/
structure Given where
  options : List (String × String)
  positionals : List String
  /-- The command, and the arguments after it. -/
  command : Option (String × List String)

namespace Given

/-- Nothing was read. -/
def nothing : Given := ⟨[], [], none⟩

/-- The value of an option. -/
def option? (g : Given) (name : String) : Option String := g.options.lookup name

end Given

/-- What an argument is. -/
inductive Shape where
  /-- The end of the options. -/
  | escape
  /-- A long option, and the value after its `=`. -/
  | long (name : String) (value : Option String)
  | short (letter : Char)
  | plain
deriving DecidableEq, Repr

/-- The shape of an argument. -/
def Shape.of (argument : String) : Shape :=
  match argument.toList with
  | ['-', '-'] => escape
  | '-' :: '-' :: cs =>
    long (String.ofList ('-' :: '-' :: cs.takeWhile (· ≠ '=')))
      (match cs.dropWhile (· ≠ '=') with
        | _ :: value => some (String.ofList value)
        | [] => none)
  | '-' :: c :: _ => short c
  | _ => plain

namespace Level

variable (l : Level)

/-- The names of the output formats. -/
def formats : List (String × Format) := [("text", .text), ("json", .json)]

/-- Whether an option accepts a value. -/
def accepts (option value : String) : Bool :=
  if option = "--format" then (formats.lookup value).isSome
  else option ≠ "--policy" || !value.isEmpty

/-- Takes the value of an option. -/
def setOption (g : Given) (option value : String) : Except Stop Given :=
  if (g.option? option).isSome then .error (.error (.repeated option))
  else if accepts option value then
    .ok { g with options := g.options ++ [(option, value)] }
  else .error (.error (.badValue option value))

/-- Takes a positional argument. -/
def addPositional (g : Given) (argument : String) : Except Stop Given :=
  if g.positionals.length < l.positionals then
    .ok { g with positionals := g.positionals ++ [argument] }
  else .error (.error (.unexpected argument))

/-- Reads the arguments of a level, up to the command of the next. -/
def read (g : Given) : List String → Except Stop Given
  | [] => .ok g
  | argument :: arguments =>
    match Shape.of argument with
    | .escape => arguments.foldlM l.addPositional g
    | .long name value =>
      if name = "--help" && value.isNone then .error .help
      else if name = "--version" && value.isNone && l.tellsVersion then .error .version
      else if name = "--format" || l.options.contains name then
        match value, arguments with
        | some value, arguments =>
          match setOption g name value with
          | .ok g => read g arguments
          | .error e => .error e
        | none, value :: arguments =>
          if Shape.of value ≠ .plain then .error (.error (.noValue name))
          else
            match setOption g name value with
            | .ok g => read g arguments
            | .error e => .error e
        | none, [] => .error (.error (.noValue name))
      else .error (.error (.unexpected argument))
    | .short letter =>
      if letter = 'h' then .error .help
      else if letter = 'V' && l.tellsVersion then .error .version
      else .error (.error (.unexpected argument))
    | .plain =>
      if l.commands.contains argument then .ok { g with command := some (argument, arguments) }
      else
        match l.addPositional g argument with
        | .ok g => read g arguments
        | .error e => .error e

end Level

/-! ## The levels -/

/-- The level of the program. -/
def programLevel : Level := ⟨[], 0, ["compile", "run", "help"], true⟩

/-- The level of `compile`. -/
def compileLevel : Level := ⟨[], 2, [], false⟩

/-- The level of `run`. -/
def runLevel : Level where
  options := ["--table", "--primary-key", "--policy"]
  positionals := 0
  commands := ["find", "count", "remove", "remove-all", "update", "insert", "aggregate", "help"]
  tellsVersion := false

/-- The level of an operation. -/
def operationLevel : String → Level
  | "remove-all" => ⟨[], 0, [], false⟩
  | "insert" | "aggregate" => ⟨[], 1, [], false⟩
  | _ => ⟨["--raw"], 1, [], false⟩

/-! ## All arguments -/

/-- The format of levels, the deepest first. -/
def formatOf (levels : List Given) : Format :=
  ((levels.findSome? fun g => g.option? "--format").bind
    fun name => Level.formats.lookup name).getD .text

/-- The kind of a name. -/
def kindOf (name : String) : Except Stop RequestKind :=
  match name with
  | "find" => .ok .find
  | "count" => .ok .count
  | "remove" => .ok .remove
  | "update" => .ok .update
  | "aggregate" => .ok .aggregate
  | _ => .error (.error (.badValue "<kind>" name))

/-- The request of a level, `{}` without one. -/
def requestOf (g : Given) (place : Nat) : String := (g.positionals[place]?).getD "\x7b\x7d"

/-- The request of a level, or its statement. -/
def inputOf (g : Given) : Except Stop (Input String) :=
  match g.option? "--raw" with
  | none => .ok (.compiled (requestOf g 0))
  | some sql =>
    if g.positionals.isEmpty then .ok (.raw sql)
    else .error (.error (.conflict "--raw" "[params]"))

/-- The operation of a name. -/
def operationOf (name : String) (g : Given) : Except Stop Operation :=
  match name with
  | "find" => (inputOf g).map .find
  | "count" => (inputOf g).map .count
  | "remove" => (inputOf g).map .remove
  | "remove-all" => .ok .removeAll
  | "update" => (inputOf g).map .update
  | "aggregate" => .ok (.aggregate (requestOf g 0))
  | "insert" =>
    match g.positionals with
    | records :: _ => .ok (.insert records)
    | [] => .error (.error (.missing "<records>"))
  | _ => .error .help

/-- The table of a level, and its settings. -/
def targetOf (g : Given) : Except Stop Target :=
  match g.option? "--table" with
  | some table => .ok ⟨table, (g.option? "--primary-key").getD "id", g.option? "--policy"⟩
  | none => .error (.error (.missing "--table"))

/-- The task of arguments, or why there is none. -/
def taskOf (arguments : List String) : Except Stop (Format × Task) := do
  let program ← programLevel.read .nothing arguments
  match program.command with
  | none => throw (.error (.missing "<command>"))
  | some ("compile", arguments) =>
    let g ← compileLevel.read .nothing arguments
    match g.positionals with
    | [] => throw (.error (.missing "<kind>"))
    | kind :: _ => return (formatOf [g, program], .compile (← kindOf kind) (requestOf g 1))
  | some ("run", arguments) =>
    let run ← runLevel.read .nothing arguments
    match run.command with
    | none => throw (.error (.missing "<action>"))
    | some (name, arguments) =>
      let g ← (operationLevel name).read .nothing arguments
      let operation ← operationOf name g
      return (formatOf [g, run, program], .run (← targetOf run) operation)
  | some _ => throw .help

/-- What arguments ask for. -/
def Invocation.ofArguments (arguments : List String) : Except UsageError Invocation :=
  match taskOf arguments with
  | .ok asked => .ok (.task asked.1 asked.2)
  | .error .help => .ok .help
  | .error .version => .ok .version
  | .error (.error e) => .error e

end Cli

end RowQuery
