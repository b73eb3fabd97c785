import CallScript.Source.Position
import CallScript.Value.Text

/-!
# Tokens

A token has a kind, by which the grammar goes, and a value. Malformed text is a token too: its
value is an error that carries the position.
-/

namespace CallScript

/-- The kinds of tokens. -/
inductive TokenKind where
  /-- the end of the input -/
  | done
  /-- malformed text -/
  | error
  | comma
  | openParen
  | closeParen
  /-- a field path -/
  | field
  /-- a function name after its mark -/
  | func
  /-- a comment up to the end of its line -/
  | comment
  /-- an integer, float, string or JSON literal -/
  | literal
  /-- a line break -/
  | eol
  deriving Repr, DecidableEq

/-- The name of a kind in a log. -/
def TokenKind.name : TokenKind → String
  | .done => "End"
  | .error => "Error"
  | .comma => "Comma"
  | .openParen => "OpenParen"
  | .closeParen => "CloseParen"
  | .field => "Field"
  | .func => "Func"
  | .comment => "Comment"
  | .literal => "Literal"
  | .eol => "Eol"

/-- A kind and a value found at a position. -/
structure Token where
  position : Position
  kind : TokenKind
  value : Value

namespace Token

instance : Inhabited Token := ⟨⟨Position.start "", .done, .nil⟩⟩

/-- The token of a failure at a position. -/
def failure (position : Position) (about : String) : Token :=
  ⟨position, .error, .error (position.message about)⟩

/-- How a token is named in a message. -/
def text (t : Token) : String :=
  match t.kind with
  | .done => "end of input"
  | .eol => "new line"
  | .comma => ","
  | .openParen => "("
  | .closeParen => ")"
  | _ => t.value.render

/-- Whether no token after this one can belong to the same script. -/
def isLast (t : Token) : Bool :=
  t.kind == .done || t.kind == .error

end Token

end CallScript
