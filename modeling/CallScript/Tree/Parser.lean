import CallScript.Source.TokenStream
import CallScript.Tree.Node

/-!
# Reading trees from tokens

Scripts follow this grammar, in which lines are divided by line breaks:

* a script is a row of lines, and a line is empty, a comment or a call;
* a call is a function name and, in parentheses, arguments divided by commas;
* an argument is a literal, a field or a call.

Reading goes token by token. While a call is read, the calls around it are kept as a stack, so the
state after each token says what may follow. The first token that cannot follow becomes an error
node in its place; all open calls are then closed as they are, and reading stops.
-/

namespace CallScript

/-! ## Calls -/

/-- A call whose closing parenthesis has not been read: the token of its name and the arguments so
far. -/
structure OpenCall where
  name : Token
  arguments : List Node

namespace OpenCall

/-- The call with the arguments so far. -/
def node (call : OpenCall) : Node :=
  .mk .call (some call.name) call.arguments

/-- The call with one more argument. -/
def push (call : OpenCall) (argument : Node) : OpenCall :=
  { call with arguments := call.arguments ++ [argument] }

end OpenCall

/-- Closes the calls around a call as they are, the innermost first. -/
def closeAround (call : Node) : List OpenCall → Node
  | [] => call
  | outer :: calls => closeAround (outer.push (.nested call)).node calls

/-- Gives a last argument to the innermost of some open calls and closes them all; without open
calls the argument stands alone. -/
def closeWith (last : Node) : List OpenCall → Node
  | [] => last
  | call :: calls => closeAround (call.push last).node calls

/-- The state of reading a call: the token of a name whose parenthesis is to come, or the innermost
open call and what may follow; and the calls around it, the innermost first. -/
inductive CallState where
  /-- a name has been read, its opening parenthesis has not -/
  | named (name : Token) (outer : List OpenCall)
  /-- the opening parenthesis has just been read -/
  | opened (call : OpenCall) (outer : List OpenCall)
  /-- a comma has just been read -/
  | divided (call : OpenCall) (outer : List OpenCall)
  /-- an argument has just been read -/
  | filled (call : OpenCall) (outer : List OpenCall)

/-- One step of reading: a state to go on from, or the tree, and whether reading it failed. -/
inductive Step (σ : Type) where
  | more (state : σ)
  | stop (node : Node) (failed : Bool)

/-- The error node for a token that cannot follow. A token that is a failure itself keeps its own
message. -/
def errorNode (token : Token) (expected : String) : Node :=
  .leaf .error (if token.kind = .error then token
    else Token.failure token.position ("expected " ++ expected ++ ", got " ++ token.text))

namespace CallState

/-- Goes on after an argument. A parser that has failed before stops at the first argument it
completes. -/
def afterArgument (failed : Bool) (argument : Node) (call : OpenCall) (outer : List OpenCall) :
    Step CallState :=
  if failed then .stop (closeWith argument (call :: outer)) true
  else .more (.filled (call.push argument) outer)

/-- Goes on after a call is complete. -/
def afterCall (failed : Bool) (call : OpenCall) : List OpenCall → Step CallState
  | [] => .stop call.node failed
  | around :: outer => afterArgument failed (.nested call.node) around outer

/-- Stops at a token that cannot follow. -/
def refuse (token : Token) (expected : String) (calls : List OpenCall) : Step CallState :=
  .stop (closeWith (errorNode token expected) calls) true

/-- Reads a token that has to begin an argument. -/
def beginArgument (failed : Bool) (token : Token) (call : OpenCall) (outer : List OpenCall) :
    Step CallState :=
  match token.kind with
  | .field | .literal => afterArgument failed (.leaf .argument token) call outer
  | .func => .more (.named token (call :: outer))
  | _ => refuse token "a field, string, int, float, json, or expression" (call :: outer)

/-- Reads one token. -/
def step (failed : Bool) (state : CallState) (token : Token) : Step CallState :=
  match state with
  | .named name outer =>
      if token.kind = .openParen then .more (.opened ⟨name, []⟩ outer)
      else refuse token "(" outer
  | .opened call outer =>
      if token.kind = .closeParen then afterCall failed call outer
      else beginArgument failed token call outer
  | .divided call outer => beginArgument failed token call outer
  | .filled call outer =>
      if token.kind = .closeParen then afterCall failed call outer
      else if token.kind = .comma then .more (.divided call outer)
      else refuse token ", or )" (call :: outer)

/-- The tree of what has been read so far. -/
def close : CallState → Node
  | .named name outer => closeAround (OpenCall.node ⟨name, []⟩) outer
  | .opened call outer | .divided call outer | .filled call outer => closeAround call.node outer

end CallState

/-! ## Scripts -/

/-- Where the reader of a script stands. -/
inductive ScriptPhase where
  /-- at the start of a line -/
  | lineStart
  /-- inside a call -/
  | inCall (call : CallState)
  /-- after the statement of a line -/
  | lineEnd

/-- The statements read so far and where the reader stands. -/
structure ScriptState where
  statements : List Node
  phase : ScriptPhase

namespace ScriptState

/-- Goes on after a statement. A parser that has failed stops here. -/
def afterStatement (failed : Bool) (statements : List Node) (statement : Node) : Step ScriptState :=
  if failed then .stop (.script (statements ++ [statement])) true
  else .more ⟨statements ++ [statement], .lineEnd⟩

/-- Stops at a token that cannot follow. -/
def refuse (token : Token) (expected : String) (statements : List Node) : Step ScriptState :=
  .stop (.script (statements ++ [errorNode token expected])) true

/-- Reads one token. -/
def step (failed : Bool) (state : ScriptState) (token : Token) : Step ScriptState :=
  match state.phase with
  | .lineStart =>
      match token.kind with
      | .done => .stop (.script state.statements) failed
      | .eol => .more state
      | .comment => afterStatement failed state.statements (.leaf .comment token)
      | .func => .more { state with phase := .inCall (.named token []) }
      | _ => refuse token "a comment, or a function call expression" state.statements
  | .inCall call =>
      match call.step failed token with
      | .more call => .more { state with phase := .inCall call }
      | .stop node failed => afterStatement failed state.statements node
  | .lineEnd =>
      match token.kind with
      | .eol => .more { state with phase := .lineStart }
      | .done => .stop (.script state.statements) failed
      | _ => refuse token "new line" state.statements

/-- The tree of what has been read so far. -/
def close (state : ScriptState) : Node :=
  match state.phase with
  | .inCall call => .script (state.statements ++ [call.close])
  | _ => .script state.statements

end ScriptState

/-! ## Parsers -/

/-- Tokens still to be read, and whether reading has failed at some time. -/
structure Parser where
  stream : TokenStream
  failed : Bool := false

/-- The result of reading: the tree, the tokens taken for it, and the parser behind them. -/
structure Parsed where
  node : Node
  taken : List Token
  parser : Parser

/-- Reads tokens until a step stops. -/
def readTree {σ : Type} (step : σ → Token → Step σ) (close : σ → Node) :
    σ → Parser → List (Token × TokenStream) → Parsed
  | state, parser, [] => ⟨close state, [], parser⟩
  | state, parser, (token, stream) :: rest =>
      match step state token with
      | .stop node failed => ⟨node, [token], ⟨stream, failed⟩⟩
      | .more state =>
          let parsed := readTree step close state { parser with stream := stream } rest
          { parsed with taken := token :: parsed.taken }

namespace Parser

/-- A parser at the start of a text. -/
def ofText (source : String) (text : List Char) : Parser :=
  { stream := TokenStream.ofText source text }

/-- Takes the next token. -/
def next (p : Parser) : Token × Parser :=
  let (token, stream) := p.stream.next
  (token, { p with stream := stream })

/-- Shows the next token. -/
def peek (p : Parser) : Token × Parser :=
  let (token, stream) := p.stream.peek
  (token, { p with stream := stream })

/-- The result of a tree of one token. -/
def single (node : Node) (token : Token) (p : Parser) : Parsed :=
  ⟨node, [token], p⟩

/-- Stops at a token that cannot begin what is read. -/
def refuse (token : Token) (expected : String) (p : Parser) : Parsed :=
  single (errorNode token expected) token { p with failed := true }

/-- Reads a call whose name has just been taken. -/
def restOfCall (name : Token) (p : Parser) : Parsed :=
  let parsed := readTree (CallState.step p.failed) CallState.close (.named name []) p p.stream.upcoming
  { parsed with taken := name :: parsed.taken }

/-- Reads a call. -/
def call (p : Parser) : Parsed :=
  let (token, p) := p.next
  if token.kind = .func then p.restOfCall token else p.refuse token "@function name"

/-- Reads an argument. -/
def argument (p : Parser) : Parsed :=
  let (token, p) := p.next
  match token.kind with
  | .field | .literal => p.single (.leaf .argument token) token
  | .func =>
      let parsed := p.restOfCall token
      if parsed.node.isError then parsed else { parsed with node := .nested parsed.node }
  | _ => p.refuse token "a field, string, int, float, json, or expression"

/-- Reads a statement. -/
def statement (p : Parser) : Parsed :=
  let (token, p) := p.next
  match token.kind with
  | .comment => p.single (.leaf .comment token) token
  | .func => p.restOfCall token
  | _ => p.refuse token "a comment, or a function call expression"

/-- Reads a script up to its end or the first failure. -/
def script (p : Parser) : Parsed :=
  readTree (ScriptState.step p.failed) ScriptState.close ⟨[], .lineStart⟩ p p.stream.upcoming

end Parser

/-- The first failure of a script: the place of its token, and its message. -/
structure SyntaxError where
  position : Position
  message : String
  deriving Repr, DecidableEq

/-- The tree of what was read, or its first failure. -/
def Parsed.checked (parsed : Parsed) : Except SyntaxError Node :=
  match parsed.node.findError? with
  | none => .ok parsed.node
  | some error =>
      let position := match error.token with
        | some token => token.position
        | none => parsed.parser.stream.position
      .error ⟨position, error.value.render⟩

/-- The tree of a script, with what could not be read as an error node. -/
def parseScript (source : String) (text : List Char) : Node :=
  (Parser.ofText source text).script.node

/-- The tree of a script, or its first failure. -/
def parseChecked (source : String) (text : List Char) : Except SyntaxError Node :=
  (Parser.ofText source text).script.checked

end CallScript
