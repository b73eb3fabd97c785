import CallScript.Value.Basic
import CallScript.Decimal.Notation
import CallScript.Text.Quoted
import CallScript.Text.Utf8

/-!
# The text of values

The canonical text of a literal is a literal of the language, and the canonical text of a list or
map is the call that builds it.
-/

namespace CallScript.Value

mutual

/-- The canonical text of a value. -/
def text : Value → List Char
  | .nil => "nil".toList
  | .int n => Decimal.intText n.toInt
  | .float x => Decimal.floatText x
  | .string s => Text.quote s.toList
  | .comment t => '#' :: t.toList
  | .funcName name => '@' :: name.toList
  | .fieldName path => path.text
  | .json raw => Text.Utf8.decodeLossy raw
  | .list items => "@list(".toList ++ itemsText items ++ [')']
  | .map entries => "@map(".toList ++ entriesText entries ++ [')']
  | .error message => message.toList

/-- The canonical texts of values, divided by commas. -/
def itemsText : List Value → List Char
  | [] => []
  | [x] => text x
  | x :: xs => text x ++ ',' :: itemsText xs

/-- Keys and values in turn, divided by commas. -/
def entriesText : List (String × Value) → List Char
  | [] => []
  | [(k, x)] => Text.quote k.toList ++ ',' :: text x
  | (k, x) :: xs => Text.quote k.toList ++ ',' :: (text x ++ ',' :: entriesText xs)

end

/-- The canonical text as a string. -/
def render (v : Value) : String :=
  String.ofList v.text

/-- The text for a reader: strings and comments without their marks, all else canonical. -/
def plainText : Value → String
  | .string s => s
  | .comment t => t
  | v => v.render

end CallScript.Value
