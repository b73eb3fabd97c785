import CallScript.Source.Token
import CallScript.Text.CharClass
import CallScript.Text.CharLiteral

/-!
# Lexemes

A lexeme is what the first characters of a text make up: the characters taken, the characters left
and either a kind with a value or a fault. Every scanner splits its text: the characters taken
followed by the characters left are the text, so positions can be computed from what was taken.
-/

namespace CallScript

/-- Why digits make no number. -/
inductive NumberFault where
  | tooLarge
  | tooSmall
  | noDigits
  | noFloat
  deriving Repr, DecidableEq

/-- The wording of a number's fault. -/
def NumberFault.message : NumberFault → String
  | .tooLarge => "number too large to fit in target type"
  | .tooSmall => "number too small to fit in target type"
  | .noDigits => "invalid digit found in string"
  | .noFloat => "invalid float literal"

/-- Why characters make no token. -/
inductive LexicalFault where
  | unterminatedComment
  | missingName
  | unterminatedJson
  | unterminatedString
  | manyPoints (number : List Char)
  | invalidNumber (number : List Char) (fault : NumberFault)
  | unexpected (c : Char)
  deriving Repr, DecidableEq

/-- The wording of a lexical fault. -/
def LexicalFault.message : LexicalFault → String
  | .unterminatedComment => "unterminated comment"
  | .missingName => "missing function name after '@'"
  | .unterminatedJson => "unterminated JSON literal"
  | .unterminatedString => "unterminated string"
  | .manyPoints number => "more than one floating point in " ++ String.ofList number
  | .invalidNumber number fault =>
      "invalid number '" ++ String.ofList number ++ "': " ++ fault.message
  | .unexpected c => "unexpected character " ++ String.ofList (Text.showChar c)

/-- What the first characters of a text make up. -/
structure Lexeme where
  outcome : Except LexicalFault (TokenKind × Value)
  taken : List Char
  rest : List Char

namespace Lexeme

/-- A token of the given characters. -/
def token (kind : TokenKind) (value : Value) (taken rest : List Char) : Lexeme :=
  ⟨.ok (kind, value), taken, rest⟩

/-- A fault that takes the given characters. -/
def fault (why : LexicalFault) (taken rest : List Char) : Lexeme :=
  ⟨.error why, taken, rest⟩

/-- The characters of function names and field paths. -/
def isNameChar (c : Char) : Bool :=
  Text.isAlphanumeric c || c == '.' || c == '_' || c == '[' || c == ']'

/-- The characters of a number after its sign. -/
def isNumberChar (c : Char) : Bool :=
  c.isDigit || c == '.'

/-- A comment, up to the line break after its mark. -/
def comment (afterMark : List Char) : Lexeme :=
  let text := afterMark.takeWhile (· != '\n')
  match afterMark.dropWhile (· != '\n') with
  | [] => fault .unterminatedComment ('#' :: text) []
  | rest => token .comment (.comment (String.ofList text)) ('#' :: text) rest

/-- A function name after its mark. -/
def func (afterMark : List Char) : Lexeme :=
  let name := afterMark.takeWhile isNameChar
  let rest := afterMark.dropWhile isNameChar
  if name.isEmpty then fault .missingName ['@'] rest
  else token .func (.funcName (String.ofList name)) ('@' :: name) rest

/-- A field path. -/
def field (text : List Char) : Lexeme :=
  let path := text.takeWhile isNameChar
  token .field (.fieldName (FieldPath.parse path)) path (text.dropWhile isNameChar)

/-- A string literal after its opening quote. -/
def string (afterQuote : List Char) : Lexeme :=
  match Text.readQuoted afterQuote with
  | some (text, taken, rest) =>
      token .literal (.string (String.ofList text)) ('\'' :: taken) rest
  | none => fault .unterminatedString ('\'' :: afterQuote) []

/-- Where the brace slicer stands. -/
inductive BraceState where
  /-- outside of double quotes -/
  | plain
  /-- inside double quotes -/
  | quoted
  /-- after a backslash inside double quotes -/
  | escaped
  deriving Repr, DecidableEq

/-- Slices up to the brace that closes `depth + 1` open ones: the characters with that brace, and
the characters after it; `none` if it is missing. -/
def sliceBraces : Nat → BraceState → List Char → Option (List Char × List Char)
  | _, _, [] => none
  | depth, .plain, c :: rest =>
      if c = '\x7d' then
        match depth with
        | 0 => some ([c], rest)
        | depth + 1 => (sliceBraces depth .plain rest).map fun (taken, rest) => (c :: taken, rest)
      else
        let depth' := if c = '\x7b' then depth + 1 else depth
        let state := if c = '"' then .quoted else .plain
        (sliceBraces depth' state rest).map fun (taken, rest) => (c :: taken, rest)
  | depth, .quoted, c :: rest =>
      let state := if c = '\\' then .escaped else if c = '"' then .plain else .quoted
      (sliceBraces depth state rest).map fun (taken, rest) => (c :: taken, rest)
  | depth, .escaped, c :: rest =>
      (sliceBraces depth .quoted rest).map fun (taken, rest) => (c :: taken, rest)

/-- A JSON literal after its opening brace. It is cut out by its braces and not read. -/
def json (afterBrace : List Char) : Lexeme :=
  match sliceBraces 0 .plain afterBrace with
  | some (taken, rest) =>
      token .literal (.json (Text.Utf8.encode ('\x7b' :: taken))) ('\x7b' :: taken) rest
  | none => fault .unterminatedJson ('\x7b' :: afterBrace) []

/-- The integer of a sign and digits. -/
def integer (negative : Bool) (digits : List Char) : Except NumberFault Value :=
  let n := Decimal.readNat digits
  if digits.isEmpty then .error .noDigits
  else if negative then
    if n ≤ 0x8000000000000000 then .ok (.int (Int64.ofInt (-(n : Int)))) else .error .tooSmall
  else
    if n < 0x8000000000000000 then .ok (.int (Int64.ofInt n)) else .error .tooLarge

/-- The float of a sign and digits with one point, rounded to the nearest double. -/
def float (negative : Bool) (digits : List Char) : Except NumberFault Value :=
  let whole := digits.takeWhile (· != '.')
  let fraction := (digits.dropWhile (· != '.')).drop 1
  if whole.isEmpty && fraction.isEmpty then .error .noFloat
  else
    let magnitude := Float.ofScientific (Decimal.readNat (whole ++ fraction)) true fraction.length
    .ok (.float (if negative then -magnitude else magnitude))

/-- A number: a sign, then all the digits and points that follow. -/
def number (text : List Char) : Lexeme :=
  let negative := text.head? == some '-'
  let sign := if negative then ['-'] else []
  let body := if negative then text.drop 1 else text
  let digits := body.takeWhile isNumberChar
  let rest := body.dropWhile isNumberChar
  let spelled := sign ++ digits
  let points := digits.count '.'
  if 1 < points then fault (.manyPoints spelled) spelled rest
  else
    match if points = 1 then float negative digits else integer negative digits with
    | .ok value => token .literal value spelled rest
    | .error why => fault (.invalidNumber spelled why) spelled rest

/-- The lexeme of a text that begins with `c`. A character that begins no token is not taken. -/
def scan (c : Char) (rest : List Char) : Lexeme :=
  if c = '\n' then token .eol .nil [c] rest
  else if c = '#' then comment rest
  else if c = '@' then func rest
  else if c = '\x7b' then json rest
  else if c = '\'' then string rest
  else if c.isDigit || c == '-' then number (c :: rest)
  else if c = '(' then token .openParen (.string "(") [c] rest
  else if c = ')' then token .closeParen (.string ")") [c] rest
  else if c = ',' then token .comma (.string ",") [c] rest
  else if Text.isAlphabetic c then field (c :: rest)
  else fault (.unexpected c) [] (c :: rest)

end Lexeme

end CallScript
