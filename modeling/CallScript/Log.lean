import CallScript.Program

/-!
# The log

What a program does is logged on five levels. A log has a level of its own and shows the records up
to it, one on a line: the level, a message and its fields.
-/

namespace CallScript

/-- The levels, the most urgent first; a log on level `off` shows nothing. -/
inductive LogLevel where
  | off
  | error
  | warn
  | info
  | debug
  | trace
  deriving Repr, DecidableEq

namespace LogLevel

/-- The order of the levels. -/
def rank : LogLevel → Nat
  | .off => 0
  | .error => 1
  | .warn => 2
  | .info => 3
  | .debug => 4
  | .trace => 5

/-- The level of a name. -/
def ofName? : String → Option LogLevel
  | "off" => some .off
  | "error" => some .error
  | "warn" => some .warn
  | "info" => some .info
  | "debug" => some .debug
  | "trace" => some .trace
  | _ => none

/-- The name of a level in a log, five wide. -/
def label : LogLevel → String
  | .off => "  OFF"
  | .error => "ERROR"
  | .warn => " WARN"
  | .info => " INFO"
  | .debug => "DEBUG"
  | .trace => "TRACE"

end LogLevel

/-- A line of a log. -/
structure LogRecord where
  level : LogLevel
  message : String
  fields : List (String × String)
  deriving Repr, DecidableEq

namespace LogRecord

/-- The text of a record. -/
def text (r : LogRecord) : String :=
  r.level.label ++ " " ++ r.message ++
    String.join (r.fields.map fun (name, value) => " " ++ name ++ "=" ++ value)

/-- A token has been found. -/
def ofToken (token : Token) : LogRecord :=
  ⟨.trace, "lexed token", [("kind", token.kind.name), ("position", token.position.text)]⟩

/-- The records of reading a tree: its tokens, and its failure if it has one. -/
def ofParsed (parsed : Parsed) : List LogRecord :=
  parsed.taken.map ofToken ++
    match parsed.node.findError? with
    | some error => [⟨.debug, "parse stopped", [("error", error.value.render)]⟩]
    | none => []

/-- A script has been read. -/
def ofScript (source : ScriptSource) (parsed : Parsed) : LogRecord :=
  ⟨.info, "parsed script", [("source", source.name),
    ("statements", String.ofList (Decimal.natText parsed.node.children.length))]⟩

/-- The record of an event; output and remarks of the host are not logged. -/
def ofEvent? : Event → Option LogRecord
  | .printed _ => none
  | .remark _ => none
  | .calling function arguments => some ⟨.trace, "calling function",
      [("function", function), ("args", String.ofList (Decimal.natText arguments))]⟩
  | .unregistered function => some ⟨.debug,
      "call to unregistered function evaluates to nil", [("function", function)]⟩
  | .unresolved field => some ⟨.debug,
      "unresolved field evaluates to nil", [("field", String.ofList field.text)]⟩

/-- The records of reading scripts in order, up to the first that is malformed. With `announce`
each script that has been read is announced. -/
def ofSources (announce : Bool) : List ScriptSource → List LogRecord
  | [] => []
  | source :: sources =>
      let parsed := source.parsed
      ofParsed parsed ++
        match parsed.checked with
        | .error _ => []
        | .ok _ => (if announce then [ofScript source parsed] else []) ++ ofSources announce sources

/-- The lines that a log of a level shows. -/
def shown (level : LogLevel) (records : List LogRecord) : String :=
  String.join ((records.filter fun r => r.level.rank ≤ level.rank).map (·.text ++ "\n"))

end LogRecord

end CallScript
