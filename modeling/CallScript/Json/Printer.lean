import CallScript.Json.Basic
import CallScript.Decimal.Notation

/-!
# Writing JSON

A document is written either without any blanks or over several lines with two blanks for each
level of nesting. Members of an object come in the order of the dictionary.
-/

namespace CallScript.Json

/-- How one character is written in a string: quote, backslash and controls by escapes, all else as
it is. -/
def escapeChar (c : Char) : List Char :=
  if c = '"' then ['\\', '"']
  else if c = '\\' then ['\\', '\\']
  else if c = Char.ofNat 8 then ['\\', 'b']
  else if c = Char.ofNat 12 then ['\\', 'f']
  else if c = '\n' then ['\\', 'n']
  else if c = '\r' then ['\\', 'r']
  else if c = '\t' then ['\\', 't']
  else if c.toNat < 32 then
    ['\\', 'u', '0', '0', Nat.digitChar (c.toNat / 16), Nat.digitChar (c.toNat % 16)]
  else [c]

/-- A string between double quotes. -/
def stringText (s : String) : List Char :=
  '"' :: (s.toList.flatMap escapeChar ++ ['"'])

/-- A number. -/
def Number.text : Number → List Char
  | .whole n _ => Decimal.intText n
  | .real x _ => Decimal.jsonFloatText x

/-- The layout of a document: the level of nesting, or `none` for a single line without blanks. -/
abbrev Layout := Option Nat

/-- One level further in. -/
def Layout.inner (layout : Layout) : Layout :=
  layout.map (· + 1)

/-- What stands between two parts of a container. -/
def Layout.break : Layout → List Char
  | none => []
  | some level => '\n' :: List.replicate (2 * level) ' '

/-- What stands between a key and its value. -/
def Layout.colon : Layout → List Char
  | none => [':']
  | some _ => [':', ' ']

mutual

/-- The text of a document. -/
def text (layout : Layout) : Json → List Char
  | .null => "null".toList
  | .bool b => if b then "true".toList else "false".toList
  | .number n => n.text
  | .string s => stringText s
  | .array [] => ['[', ']']
  | .array (x :: xs) => '[' :: (layout.inner.break ++ text layout.inner x ++ itemsText layout xs)
  | .object [] => ['\x7b', '\x7d']
  | .object ((k, x) :: ms) =>
      '\x7b' :: (layout.inner.break ++ stringText k ++ layout.colon ++ text layout.inner x ++
        membersText layout ms)

/-- The items of a list after the first, and the closing bracket. -/
def itemsText (layout : Layout) : List Json → List Char
  | [] => layout.break ++ [']']
  | x :: xs => ',' :: (layout.inner.break ++ text layout.inner x ++ itemsText layout xs)

/-- The members of an object after the first, and the closing brace. -/
def membersText (layout : Layout) : List (String × Json) → List Char
  | [] => layout.break ++ ['\x7d']
  | (k, x) :: ms =>
      ',' :: (layout.inner.break ++ stringText k ++ layout.colon ++ text layout.inner x ++
        membersText layout ms)

end

/-- A document on one line without blanks. -/
def compact (json : Json) : String :=
  String.ofList (text none json)

/-- A document over several lines. -/
def pretty (json : Json) : String :=
  String.ofList (text (some 0) json)

end CallScript.Json
