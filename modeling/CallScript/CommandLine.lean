import CallScript.Log
import CallScript.Standard.Functions

/-!
# The command line

A command runs scripts from files or from the standard input, evaluates a script given as an
argument, or only checks scripts. Everything a command does is a function of its arguments, the
files, the standard input and the level of the log; the outcome is what it writes and its exit
code.
-/

namespace CallScript

/-- A command. -/
inductive Command where
  | run (files : List String) (json pretty : Bool)
  | eval (script : String) (json pretty : Bool)
  | check (files : List String) (showTrees : Bool)
  | version
  deriving Repr, DecidableEq

namespace Command

/-- Divides arguments into options and operands. After two hyphens every argument is an operand. -/
def sortArguments : List String → List String × List String
  | [] => ([], [])
  | "--" :: rest => ([], rest)
  | argument :: rest =>
      let (options, operands) := sortArguments rest
      if argument.toList.head? == some '-' && argument != "-" then (argument :: options, operands)
      else (options, argument :: operands)

/-- Whether all options are known. -/
def onlyOptions (options known : List String) : Bool :=
  options.all known.contains

/-- The command of some arguments; `none` if they are not well formed. -/
def ofArguments? : List String → Option Command
  | ["--version"] | ["-V"] => some .version
  | name :: arguments =>
      let (options, operands) := sortArguments arguments
      let json := options.contains "--json"
      let pretty := options.contains "-p" || options.contains "--pretty"
      match name, operands with
      | "run", files =>
          if onlyOptions options ["--json", "-p", "--pretty"] then some (.run files json pretty)
          else none
      | "eval", [script] =>
          if onlyOptions options ["--json", "-p", "--pretty"] then some (.eval script json pretty)
          else none
      | "check", files =>
          if onlyOptions options ["--ast"] then some (.check files (options.contains "--ast"))
          else none
      | _, _ => none
  | [] => none

/-- The files that a command reads. -/
def files : Command → List String
  | .run files _ _ => files
  | .check files _ => files
  | _ => []

/-- Whether a command reads the standard input. -/
def readsInput : Command → Bool
  | .run files _ _ => files.isEmpty
  | .check files _ => files.isEmpty
  | _ => false

end Command

/-- What a command finds around it: the bytes of a file or why it cannot be read, the bytes of the
standard input, and the level of the log. -/
structure Surroundings where
  file : String → Except String (List UInt8)
  input : List UInt8
  level : LogLevel := .warn

/-- What a command leaves behind. -/
structure Outcome where
  code : Nat := 0
  output : String := ""
  errors : String := ""
  deriving Repr, DecidableEq

namespace Command

/-- Reads a script from a file. -/
def readFile (around : Surroundings) (path : String) : Except ProgramError ScriptSource :=
  match (around.file path).bind fun bytes => readText bytes none with
  | .ok text => .ok ⟨path, String.ofList text⟩
  | .error reason => .error (.unreadable path reason)

/-- The scripts of some files, or of the standard input if there are none. -/
def readSources (around : Surroundings) (files : List String) :
    Except ProgramError (List ScriptSource) :=
  if files.isEmpty then
    (ScriptSource.ofInput "<stdin>" (readText around.input none)).map ([·])
  else files.mapM (readFile around)

/-- The outcome of a failure after some output and log lines. -/
def failed (error : ProgramError) (output log : String) : Outcome :=
  { code := 1, output, errors := log ++ error.message ++ "\n" }

/-- Runs scripts with the standard functions. An absent result is only shown as JSON. -/
def runSources (around : Surroundings) (sources : List ScriptSource) (json pretty : Bool) : Outcome :=
  let (result, s) := CallScript.run StandardFunction.apply sources { env := StandardFunction.environment }
  let log := LogRecord.shown around.level
    (LogRecord.ofSources true sources ++ s.journal.filterMap LogRecord.ofEvent?)
  match result with
  | .error error => failed error s.output log
  | .ok value =>
      let shown := if json || !value.isNil then formatOutput value json pretty ++ "\n" else ""
      { output := s.output ++ shown, errors := log }

/-- Checks scripts. -/
def checkSources (around : Surroundings) (sources : List ScriptSource) (showTrees : Bool) : Outcome :=
  let log := LogRecord.shown around.level (LogRecord.ofSources false sources)
  match CallScript.check sources showTrees with
  | .error error => failed error "" log
  | .ok .valid => { output := "Syntax is valid\n", errors := log }
  | .ok (.trees described) => { output := String.join (described.map (· ++ "\n")), errors := log }

/-- Carries out a command. -/
def perform (around : Surroundings) : Command → Outcome
  | .version => { output := "suela 0.1.0\n" }
  | .eval script json pretty => runSources around [⟨"<eval>", script⟩] json pretty
  | .run files json pretty =>
      match readSources around files with
      | .error error => failed error "" ""
      | .ok sources => runSources around sources json pretty
  | .check files showTrees =>
      match readSources around files with
      | .error error => failed error "" ""
      | .ok sources => checkSources around sources showTrees

/-- Carries out a command line. -/
def performArguments (around : Surroundings) (arguments : List String) : Outcome :=
  match ofArguments? arguments with
  | some command => command.perform around
  | none => { code := 2, errors := "error: invalid command line\n" }

end Command

end CallScript
