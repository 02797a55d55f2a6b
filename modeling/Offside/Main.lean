import Offside.CommandLine

/-!
# The program

Reads what a call needs from the outside world, hands it to `CommandLine.run`
and writes what that answers.
-/

open Offside

/-- The text of a file, or why it cannot be read. -/
def readFile (path : String) : IO (Except String String) := do
  try
    return .ok (← IO.FS.readFile path)
  catch
    | .noFileOrDirectory .. => return .error "No such file or directory (os error 2)"
    | error => return .error (toString error)

/-- The files among some paths. -/
def readFiles (paths : List String) : IO (List (String × Except String String)) :=
  paths.mapM fun path => return (path, ← readFile path)

/-- Runs the program with the arguments of its call. -/
def main (arguments : List String) : IO UInt32 := do
  let settings ← LimitOption.all.mapM fun limit =>
    return (limit.environmentName, ← IO.getEnv limit.environmentName)
  let environment (name : String) : Option String := (settings.lookup name).join
  let (paths, readsInput) :=
    match Arguments.read arguments environment with
    | .ok given => (given.paths, given.readsInput)
    | .error _ => ([], false)
  let files ← readFiles paths
  let input ← if readsInput then (← IO.getStdin).readToEnd else pure ""
  let outcome := CommandLine.run arguments
    { input
      file := fun path => (files.lookup path).getD (.error "not read")
      environment }
  (← IO.getStdout).putStr outcome.output
  (← IO.getStderr).putStr outcome.errors
  return outcome.code.toUInt32
