import CallScript.Standard.Fault
import CallScript.Value.Text

/-!
# Format strings

A format is text with verbs that each take the next argument: `%s` for its plain text, `%d` for a
whole number and `%v` for its canonical text; `%%` stands for a percent sign. The first thing wrong
with a format decides the complaint, and arguments left over do not matter.
-/

namespace CallScript.Standard

/-- Which form of its argument a verb asks for. -/
inductive Verb where
  | plain
  | whole
  | canonical
  deriving Repr, DecidableEq

/-- The verb of a letter. -/
def Verb.ofLetter? : Char → Option Verb
  | 's' => some .plain
  | 'd' => some .whole
  | 'v' => some .canonical
  | _ => none

/-- The text that a verb makes of an argument; a float is cut to the whole number toward zero. -/
def Verb.apply : Verb → Value → Except Fault (List Char)
  | .plain, value => .ok value.plainText.toList
  | .canonical, value => .ok value.text
  | .whole, .int n => .ok (Decimal.intText n.toInt)
  | .whole, .float x => .ok (Decimal.intText (Decimal.truncate x).toInt)
  | .whole, value => .error (.verbExpectsNumber value.typeName)

/-- The text of a format with its verbs replaced. -/
def formatText : List Char → List Value → Except Fault (List Char)
  | [], _ => .ok []
  | ['%'], _ => .error .loneVerb
  | '%' :: '%' :: rest, arguments => (formatText rest arguments).map ('%' :: ·)
  | '%' :: letter :: rest, arguments =>
      match Verb.ofLetter? letter, arguments with
      | none, _ => .error (.unknownVerb letter)
      | some _, [] => .error (.missingArgument letter)
      | some verb, argument :: arguments => do
          let piece ← verb.apply argument
          let text ← formatText rest arguments
          .ok (piece ++ text)
  | c :: rest, arguments => (formatText rest arguments).map (c :: ·)

/-- The text of a format, given as the first of the values, with the others as its arguments. -/
def format : List Value → Except Fault String
  | [] => .error .missingFormat
  | .string text :: arguments => (formatText text.toList arguments).map String.ofList
  | value :: _ => .error (.formatNotString value.typeName)

end CallScript.Standard
