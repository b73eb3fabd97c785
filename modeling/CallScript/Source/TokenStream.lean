import CallScript.Source.Lexeme

/-!
# Token streams

A cursor stands between two tokens of a source. A token stream is a cursor with room for one token
read ahead. A source that could not be read is an empty source whose first token is the failure.
-/

namespace CallScript

/-- Blanks that may stand before a token. -/
def isBlank (c : Char) : Bool :=
  c == ' ' || c == '\t'

/-- The characters still to be read, the place of the first of them, and the failure of reading the
source if it has not been reported. -/
structure Cursor where
  rest : List Char
  position : Position
  failure : Option String := none

namespace Cursor

/-- The token of a lexeme found at a position. -/
def tokenOf (position : Position) (lexeme : Lexeme) : Token :=
  match lexeme.outcome with
  | .ok (kind, value) => ⟨position, kind, value⟩
  | .error fault => Token.failure position fault.message

/-- The next token and the cursor behind it. -/
def next (c : Cursor) : Token × Cursor :=
  match c.failure with
  | some message =>
      (Token.failure c.position ("read failure: " ++ message), { c with failure := none })
  | none =>
      let start := c.position.advance (c.rest.takeWhile isBlank)
      match c.rest.dropWhile isBlank with
      | [] => (⟨start, .done, .nil⟩, { c with rest := [], position := start })
      | ch :: tail =>
          let lexeme := Lexeme.scan ch tail
          (tokenOf start lexeme,
            { c with rest := lexeme.rest, position := start.advance lexeme.taken })

end Cursor

/-- A cursor and perhaps the token before it, which has been read ahead. -/
structure TokenStream where
  cursor : Cursor
  ahead : Option Token := none

namespace TokenStream

/-- The tokens of a text. -/
def ofText (source : String) (text : List Char) : TokenStream :=
  { cursor := { rest := text, position := Position.start source } }

/-- The tokens of what reading a source gave: its text or the reason of the failure. -/
def ofRead (source : String) : Except String (List Char) → TokenStream
  | .ok text => ofText source text
  | .error why => { cursor := { rest := [], position := Position.start source, failure := some why } }

/-- The place up to which the source has been read. -/
def position (s : TokenStream) : Position :=
  s.cursor.position

/-- Takes the next token. -/
def next (s : TokenStream) : Token × TokenStream :=
  match s.ahead with
  | some token => (token, { s with ahead := none })
  | none =>
      let (token, cursor) := s.cursor.next
      (token, { cursor := cursor })

/-- Shows the next token, which stays the next one. -/
def peek (s : TokenStream) : Token × TokenStream :=
  let (token, after) := s.next
  (token, { after with ahead := some token })

/-- The next tokens up to the end or the first failure, but no more than `fuel`, each with the
stream behind it. -/
def takeUpTo : Nat → TokenStream → List (Token × TokenStream)
  | 0, _ => []
  | fuel + 1, s =>
      let (token, after) := s.next
      (token, after) :: if token.isLast then [] else takeUpTo fuel after

/-- All tokens up to the end or the first failure, each with the stream behind it. Every token but
the last takes a character or was read ahead, which bounds their number. -/
def upcoming (s : TokenStream) : List (Token × TokenStream) :=
  s.takeUpTo (s.cursor.rest.length + 2)

/-- Taking after a look ahead is taking. -/
@[simp] theorem next_peek (s : TokenStream) : s.peek.2.next = s.next := by
  simp only [peek, next]
  cases s.ahead <;> rfl

end TokenStream

/-- What reading a source of bytes gives: its text, or the reason why it cannot be read. A source
that breaks off is not looked at any further. -/
def readText (bytes : List UInt8) (failure : Option String) : Except String (List Char) :=
  match failure with
  | some why => .error why
  | none =>
      match Text.Utf8.decode? bytes with
      | some text => .ok text
      | none => .error "stream did not contain valid UTF-8"

end CallScript
