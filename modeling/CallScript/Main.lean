import CallScript.CommandLine

/-!
# The program

Reads what a command line needs, carries it out and writes its outcome.
-/

namespace CallScript

/-- Reads a file, or says why it cannot be read. -/
def readBytes (path : String) : IO (Except String (List UInt8)) := do
  try
    return .ok (← IO.FS.readBinFile path).toList
  catch error =>
    return .error <| match error with
      | .noFileOrDirectory .. => "No such file or directory (os error 2)"
      | .inappropriateType .. => "Is a directory (os error 21)"
      | .permissionDenied .. => "Permission denied (os error 13)"
      | error => toString error

/-- Collects what a command needs to know. -/
def surroundings (command : Option Command) : IO Surroundings := do
  let files ← ((command.map (·.files)).getD []).mapM fun path => do
    return (path, ← readBytes path)
  let input ←
    if command.any (·.readsInput) then pure (← (← IO.getStdin).readBinToEnd).toList else pure []
  let level ← IO.getEnv "RUST_LOG"
  return {
    file := fun path => (files.lookup path).getD (.error "No such file or directory (os error 2)")
    input := input
    level := (level.bind LogLevel.ofName?).getD .warn }

end CallScript

open CallScript in
/-- The entry point. -/
def main (arguments : List String) : IO UInt32 := do
  let around ← surroundings (Command.ofArguments? arguments)
  let outcome := Command.performArguments around arguments
  (← IO.getStdout).putStr outcome.output
  (← IO.getStderr).putStr outcome.errors
  return UInt32.ofNat outcome.code
