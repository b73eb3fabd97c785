import CallScript.Decimal.Digits
import CallScript.Text.Split

/-!
# Why a text is no pattern

A fault has a kind and the span of the text it is about, and some have a second span. It is shown
under a copy of the pattern with the spans marked; a pattern of several lines is shown with line
numbers.
-/

namespace CallScript.Pattern

/-- A place in a pattern. -/
structure Place where
  line : Nat
  column : Nat
  deriving Repr, DecidableEq

/-- The place after a character. -/
def Place.step (p : Place) (c : Char) : Place :=
  if c = '\n' then ⟨p.line + 1, 1⟩ else ⟨p.line, p.column + 1⟩

/-- Whether one place stands before another. -/
def Place.before (p q : Place) : Bool :=
  p.line < q.line || (p.line == q.line && p.column < q.column)

/-- The text from one place up to another. -/
structure Span where
  first : Place
  last : Place
  deriving Repr, DecidableEq

/-- What is wrong with a pattern. -/
inductive Problem where
  | classEscape
  | classRangeOrder
  | classRangeEnd
  | classUnclosed
  | decimalInvalid
  | hexEmpty
  | hexNoCharacter
  | hexDigit
  | escapeEnd
  | escapeUnknown
  | flagDanglingNegation
  | flagDuplicate
  | flagRepeatedNegation
  | flagEnd
  | flagUnknown
  | nameDuplicate
  | nameEmpty
  | nameCharacter
  | nameEnd
  | groupUnclosed
  | groupUnopened
  | countOrder
  | countEmpty
  | countUnclosed
  | nothingToRepeat
  | boundaryUnclosed
  | boundaryUnknown
  | boundaryEnd
  | unicodeClass
  | backreference
  | lookAround
  | propertyUnknown
  | propertyValueUnknown
  deriving Repr, DecidableEq

/-- The wording of a problem. -/
def Problem.message : Problem → String
  | .classEscape => "invalid escape sequence found in character class"
  | .classRangeOrder => "invalid character class range, the start must be <= the end"
  | .classRangeEnd => "invalid range boundary, must be a literal"
  | .classUnclosed => "unclosed character class"
  | .decimalInvalid => "decimal literal invalid"
  | .hexEmpty => "hexadecimal literal empty"
  | .hexNoCharacter => "hexadecimal literal is not a Unicode scalar value"
  | .hexDigit => "invalid hexadecimal digit"
  | .escapeEnd => "incomplete escape sequence, reached end of pattern prematurely"
  | .escapeUnknown => "unrecognized escape sequence"
  | .flagDanglingNegation => "dangling flag negation operator"
  | .flagDuplicate => "duplicate flag"
  | .flagRepeatedNegation => "flag negation operator repeated"
  | .flagEnd => "expected flag but got end of regex"
  | .flagUnknown => "unrecognized flag"
  | .nameDuplicate => "duplicate capture group name"
  | .nameEmpty => "empty capture group name"
  | .nameCharacter => "invalid capture group character"
  | .nameEnd => "unclosed capture group name"
  | .groupUnclosed => "unclosed group"
  | .groupUnopened => "unopened group"
  | .countOrder => "invalid repetition count range, the start must be <= the end"
  | .countEmpty => "repetition quantifier expects a valid decimal"
  | .countUnclosed => "unclosed counted repetition"
  | .nothingToRepeat => "repetition operator missing expression"
  | .boundaryUnclosed =>
      "special word boundary assertion is either unclosed or contains an invalid character"
  | .boundaryUnknown =>
      "unrecognized special word boundary assertion, valid choices are: start, end, start-half or end-half"
  | .boundaryEnd =>
      "found either the beginning of a special word boundary or a bounded repetition on a \\b with an opening brace, but no closing brace"
  | .unicodeClass => "invalid Unicode character class"
  | .backreference => "backreferences are not supported"
  | .lookAround => "look-around, including look-ahead and look-behind, is not supported"
  | .propertyUnknown => "Unicode property not found"
  | .propertyValueUnknown => "Unicode property value not found"

/-- A problem and the text it is about. -/
structure Fault where
  problem : Problem
  span : Span
  other : Option Span := none
  deriving Repr, DecidableEq

namespace Fault

/-- A line without a carriage return at its end. -/
def withoutReturn (line : List Char) : List Char :=
  if line.getLast? == some '\r' then line.dropLast else line

/-- The lines of a text. A line break at the end begins no line, and a carriage return before a
line break belongs to it. -/
def linesOf (text : List Char) : List (List Char) :=
  let pieces := Text.splitAtEvery '\n' text
  let last := pieces.getLastD []
  pieces.dropLast.map withoutReturn ++ if last.isEmpty then [] else [last]

/-- A row of equal characters. -/
def row (n : Nat) (c : Char) : List Char :=
  List.replicate n c

/-- Marks under a line from column `column` on, for spans in order. -/
def marks : Nat → List Span → List Char
  | _, [] => []
  | column, span :: spans =>
      let start := max column span.first.column
      let width := max 1 (span.last.column - span.first.column)
      row (start - column) ' ' ++ row width '^' ++ marks (start + width) spans

/-- The spans of a fault in order. -/
def spans (f : Fault) : List Span :=
  match f.other with
  | none => [f.span]
  | some other => if other.first.before f.span.first then [other, f.span] else [f.span, other]

/-- A line with its number, `width` wide, or indented by four if there are no numbers; with the
marks for the spans of this line under it. -/
def shownLine (width : Nat) (spans : List Span) (number : Nat) (line : List Char) : List Char :=
  let digits := Decimal.natText number
  let lead := if width = 0 then row 4 ' ' else row (width - digits.length) ' ' ++ digits ++ [':', ' ']
  let here := spans.filter fun s => s.first.line == s.last.line && s.first.line == number
  let under := if here.isEmpty then []
    else row (if width = 0 then 4 else width + 2) ' ' ++ marks 1 here ++ ['\n']
  lead ++ line ++ '\n' :: under

/-- The lines of a pattern from line `number` on. -/
def shownLines (width : Nat) (spans : List Span) : Nat → List (List Char) → List Char
  | _, [] => []
  | number, line :: lines =>
      shownLine width spans number line ++ shownLines width spans (number + 1) lines

/-- Remarks on the spans over more than one line. -/
def remarks : List Span → List Char
  | [] => []
  | s :: rest =>
      if s.first.line == s.last.line then remarks rest
      else
        let place (line column : Nat) := "line ".toList ++ Decimal.natText line ++
          " (column ".toList ++ Decimal.natText column ++ [')']
        "on ".toList ++ place s.first.line s.first.column ++ " through ".toList ++
          place s.last.line (s.last.column - 1) ++ '\n' :: remarks rest

/-- The text of a fault in `pattern`. -/
def message (f : Fault) (pattern : List Char) : String :=
  let lines := linesOf pattern
  let count := lines.length + if pattern.getLast? == some '\n' then 1 else 0
  let width := if count ≤ 1 then 0 else (Decimal.natText count).length
  let shown := shownLines width f.spans 1 lines
  let body := if pattern.contains '\n' then
      row 79 '~' ++ '\n' :: shown ++ row 79 '~' ++ '\n' :: remarks f.spans
    else shown
  "regex parse error:\n" ++ String.ofList body ++ "error: " ++ f.problem.message

end Fault

end CallScript.Pattern
