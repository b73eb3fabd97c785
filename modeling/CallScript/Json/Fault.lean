import CallScript.Decimal.Digits

/-!
# Why a text is no JSON document

A fault has a cause and a place. The place is given by the bytes that were left when the fault was
found; line and column follow from it and the whole input. Columns count bytes.
-/

namespace CallScript.Json

/-- What is wrong with a text. -/
inductive Cause where
  | endInValue
  | endInList
  | endInObject
  | endInString
  | expectedValue
  | expectedIdent
  | expectedColon
  | expectedCommaOrBracket
  | expectedCommaOrBrace
  | trailingCharacters
  | trailingComma
  | keyNotString
  | tooDeep
  | invalidNumber
  | numberOutOfRange
  | invalidEscape
  | controlCharacter
  | loneSurrogate
  | unfinishedSurrogates
  | invalidCodePoint
  deriving Repr, DecidableEq

/-- The wording of a cause. -/
def Cause.message : Cause → String
  | .endInValue => "EOF while parsing a value"
  | .endInList => "EOF while parsing a list"
  | .endInObject => "EOF while parsing an object"
  | .endInString => "EOF while parsing a string"
  | .expectedValue => "expected value"
  | .expectedIdent => "expected ident"
  | .expectedColon => "expected `:`"
  | .expectedCommaOrBracket => "expected `,` or `]`"
  | .expectedCommaOrBrace => "expected `,` or `\x7d`"
  | .trailingCharacters => "trailing characters"
  | .trailingComma => "trailing comma"
  | .keyNotString => "key must be a string"
  | .tooDeep => "recursion limit exceeded"
  | .invalidNumber => "invalid number"
  | .numberOutOfRange => "number out of range"
  | .invalidEscape => "invalid escape"
  | .controlCharacter => "control character (\\u0000-\\u001F) found while parsing a string"
  | .loneSurrogate => "lone leading surrogate in hex escape"
  | .unfinishedSurrogates => "unexpected end of hex escape"
  | .invalidCodePoint => "invalid unicode code point"

/-- A cause with its place: `rest` are the bytes after the place, and the column is put back by
`back`. -/
structure Fault where
  cause : Cause
  rest : List UInt8
  back : Nat := 0
  deriving Repr, DecidableEq

/-- A fault right after the bytes read so far. -/
def Fault.here (cause : Cause) (rest : List UInt8) : Fault :=
  ⟨cause, rest, 0⟩

/-- A fault at the next byte, which counts as read if there is one. -/
def Fault.next (cause : Cause) (rest : List UInt8) : Fault :=
  ⟨cause, rest.tail, 0⟩

/-- The line and column after the given bytes: lines from one, columns counting the bytes of the
last line. -/
def place : List UInt8 → Nat × Nat :=
  List.foldl (fun (line, column) b => if b = 10 then (line + 1, 0) else (line, column + 1)) (1, 0)

/-- The text of a fault found in `input`. -/
def Fault.message (f : Fault) (input : List UInt8) : String :=
  let (line, column) := place (input.take (input.length - f.rest.length))
  f.cause.message ++ " at line " ++ String.ofList (Decimal.natText line) ++ " column " ++
    String.ofList (Decimal.natText (column - f.back))

end CallScript.Json
