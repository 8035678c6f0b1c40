/-
  RowQuery — the program `rq`.

  Compiles requests into clauses, or runs them on a database that begins empty. What it
  does is `Cli.runProgram`; here files and variables are read, and the ending is printed.
-/
import RowQuery.Cli.Program

namespace RowQuery

namespace Cli

/-- Why a file cannot be read. -/
def fileError : IO.Error → String
  | .noFileOrDirectory _ code _ => "No such file or directory (os error " ++ toString code ++ ")"
  | e => toString e

/-- The text of a file, or why it cannot be read. -/
def readText (path : String) : IO (Except String String) := do
  try return .ok (← IO.FS.readFile path)
  catch e => return .error (fileError e)

/-- The files and variables that the program may read for arguments. -/
def surroundings (arguments : List String) : IO Surroundings := do
  let files ← (pathsOf arguments).mapM fun path => do return (path, ← readText path)
  let connections ← IO.getEnv connectionsVariable
  return ⟨fun path => (files.lookup path).getD (.error "not read"),
    fun name => if name = connectionsVariable then connections else none⟩

end Cli

end RowQuery

/-- Runs the program. -/
def main (arguments : List String) : IO UInt32 := do
  let w ← RowQuery.Cli.surroundings arguments
  let (ending, _) := RowQuery.Cli.runProgram w arguments (.ofDatabase .empty)
  IO.print ending.output
  if let some told := ending.told then IO.eprintln told
  return ending.exitCode
