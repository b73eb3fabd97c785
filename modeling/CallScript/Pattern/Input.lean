import CallScript.Pattern.Fault
import CallScript.Unicode.WhiteSpace

/-!
# The text of a pattern while it is read

The rest of the pattern with its place. In extended patterns blanks, line breaks and comments stand
between the parts and are passed over.
-/

namespace CallScript.Pattern

/-- The rest of a pattern and the place where it begins. -/
structure Input where
  rest : List Char
  place : Place

namespace Input

/-- A pattern from its start. -/
def ofText (text : List Char) : Input :=
  ⟨text, ⟨1, 1⟩⟩

/-- The next character. -/
def head? (i : Input) : Option Char :=
  i.rest.head?

/-- Whether nothing is left. -/
def atEnd (i : Input) : Bool :=
  i.rest.isEmpty

/-- Whether the next character is the given one. -/
def isAt (i : Input) (c : Char) : Bool :=
  i.head? == some c

/-- The input after its next character. -/
def bump (i : Input) : Input :=
  match i.rest with
  | [] => i
  | c :: rest => ⟨rest, i.place.step c⟩

/-- The input after its next `n` characters. -/
def bumps : Nat → Input → Input
  | 0, i => i
  | n + 1, i => i.bump.bumps n

/-- The empty span at the next character. -/
def here (i : Input) : Span :=
  ⟨i.place, i.place⟩

/-- The span from a place up to the next character. -/
def since (i : Input) (start : Place) : Span :=
  ⟨start, i.place⟩

/-- The span of the next character. -/
def one (i : Input) : Span :=
  ⟨i.place, i.bump.place⟩

/-- Blanks and line breaks of any script. -/
def isSpace (c : Char) : Bool :=
  Unicode.whiteSpace.contains c

/-- Passes over blanks and comments; `comment` says whether the text begins inside a comment. -/
def skipFrom : Bool → Place → List Char → Input
  | _, place, [] => ⟨[], place⟩
  | true, place, c :: rest => skipFrom (c != '\n') (place.step c) rest
  | false, place, c :: rest =>
      if isSpace c then skipFrom false (place.step c) rest
      else if c = '#' then skipFrom true (place.step c) rest
      else ⟨c :: rest, place⟩

/-- In an extended pattern, the input after blanks and comments. -/
def skip (extended : Bool) (i : Input) : Input :=
  if extended then skipFrom false i.place i.rest else i

/-- The input after its next character and, in an extended pattern, after the blanks and comments
that follow. -/
def next (extended : Bool) (i : Input) : Input :=
  i.bump.skip extended

/-- The character after the next one. -/
def second? (i : Input) : Option Char :=
  (i.rest.drop 1).head?

/-- The character after the next one, in an extended pattern the first that is neither a blank nor
the mark of a comment. -/
def secondPart? (extended : Bool) (i : Input) : Option Char :=
  if extended then ((i.rest.drop 1).dropWhile fun c => isSpace c || c == '#').head? else i.second?

/-- The input after `lead` if it begins with it. -/
def after? (i : Input) (lead : String) : Option Input :=
  if lead.toList.isPrefixOf i.rest then some (i.bumps lead.length) else none

/-- Takes characters as long as they belong to a class, each with what may stand behind it. -/
def takeWhile (extended : Bool) (p : Char → Bool) : Nat → Input → List Char × Input
  | 0, i => ([], i)
  | fuel + 1, i =>
      match i.rest with
      | [] => ([], i)
      | c :: _ =>
          if p c then
            let (cs, after) := takeWhile extended p fuel (i.next extended)
            (c :: cs, after)
          else ([], i)

/-- Reads a decimal number of 32 bits between blanks. The fault is given back beside the input,
since what follows may be at fault first. -/
def decimal (extended : Bool) (i : Input) : Except Fault Nat × Input :=
  let (_, i) := takeWhile false isSpace i.rest.length i
  let start := i.place
  let (digits, i) := takeWhile extended Char.isDigit i.rest.length i
  let span := i.since start
  let (_, i) := takeWhile extended isSpace i.rest.length i
  let n := Decimal.readNat digits
  if digits.isEmpty then (.error { problem := .countEmpty, span }, i)
  else if 0x100000000 ≤ n then (.error { problem := .decimalInvalid, span }, i)
  else (.ok n, i)

end Input

/-- A fault of the given kind. -/
def fail {α : Type} (problem : Problem) (span : Span) : Except Fault α :=
  .error { problem, span }

end CallScript.Pattern
