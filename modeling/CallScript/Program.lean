import CallScript.Eval.Evaluation
import CallScript.Json.Printer
import CallScript.Tree.Parser

/-!
# Programs

A program is a row of scripts that share one environment. All of them are read before any of them
runs, so a script that cannot be read keeps the others from running.
-/

namespace CallScript

/-- A script with the name under which diagnostics know it. -/
structure ScriptSource where
  name : String
  text : String
  deriving Repr, DecidableEq

/-- Why a program has no result. -/
inductive ProgramError where
  /-- a script is malformed -/
  | malformed (error : SyntaxError)
  /-- the evaluation failed -/
  | eval (error : EvalError)
  /-- a file cannot be read -/
  | unreadable (path reason : String)
  /-- the standard input cannot be read -/
  | unreadableInput (reason : String)
  /-- there is no script -/
  | noInput
  deriving Repr, DecidableEq

/-- The wording of a program's failure. -/
def ProgramError.message : ProgramError → String
  | .malformed error => error.message
  | .eval error => error.message
  | .unreadable path reason => "cannot read " ++ path ++ ": " ++ reason
  | .unreadableInput reason => "cannot read standard input: " ++ reason
  | .noInput => "no script provided; pass a file or pipe a script to stdin"

namespace ScriptSource

/-- What reading a script gives. -/
def parsed (source : ScriptSource) : Parsed :=
  (Parser.ofText source.name source.text.toList).script

/-- The tree of a script, or its first failure. -/
def parse (source : ScriptSource) : Except SyntaxError Node :=
  source.parsed.checked

/-- A script from what reading the standard input gave. -/
def ofInput (name : String) : Except String (List Char) → Except ProgramError ScriptSource
  | .ok text => .ok ⟨name, String.ofList text⟩
  | .error reason => .error (.unreadableInput reason)

end ScriptSource

/-- The trees of scripts in order, or the first failure. -/
def parseAll : List ScriptSource → Except ProgramError (List Node)
  | [] => .ok []
  | source :: sources =>
      match source.parse with
      | .error error => .error (.malformed error)
      | .ok node =>
          match parseAll sources with
          | .error error => .error error
          | .ok nodes => .ok (node :: nodes)

/-- The trees of at least one script. -/
def parseProgram (sources : List ScriptSource) : Except ProgramError (List Node) :=
  if sources.isEmpty then .error .noInput else parseAll sources

/-- One tree that runs the statements of several scripts one after the other. -/
def joinScripts (scripts : List Node) : Node :=
  .script (scripts.map fun script => .group script.children)

/-- The answer of a check. -/
inductive CheckResult where
  | valid
  | trees (described : List String)
  deriving Repr, DecidableEq

/-- Reads scripts without running them, and describes their trees if asked to. -/
def check (sources : List ScriptSource) (showTrees : Bool) : Except ProgramError CheckResult :=
  (parseProgram sources).map fun scripts =>
    if showTrees then .trees (scripts.map Node.describe) else .valid

/-- Runs scripts one after the other in a session, once all of them have been read. The result is
that of the last statement. -/
def run {F : Type} (apply : F → List Value → Session F → Value × Session F)
    (sources : List ScriptSource) (s : Session F) : Except ProgramError Value × Session F :=
  match parseProgram sources with
  | .error error => (.error error, s)
  | .ok scripts =>
      match s.tryEval apply (joinScripts scripts) with
      | (.ok value, s) => (.ok value, s)
      | (.error error, s) => (.error (.eval error), s)

/-- A result for the terminal: the canonical text, or JSON on one line or over several. -/
def formatOutput (value : Value) (json pretty : Bool) : String :=
  if !json then value.render
  else if pretty then value.toJson.pretty
  else value.toJson.compact

end CallScript
