import CallScript.Dict
import CallScript.FieldPath

/-!
# Values

One type of values serves tokens, syntax trees and results. A value is data (numbers, texts,
lists, maps and undecoded JSON), a name (of a function or a field), the text of a comment, or an
error that is passed around like data.
-/

namespace CallScript

/-- A value. Maps are dictionaries, so their entries come sorted by key. -/
inductive Value where
  /-- absence of a value -/
  | nil
  | int (n : Int64)
  | float (x : Float)
  | string (s : String)
  /-- the text of a comment without its mark -/
  | comment (text : String)
  /-- the name of a function without its mark -/
  | funcName (name : String)
  | fieldName (path : FieldPath)
  /-- a JSON document that has not been read, as its bytes -/
  | json (raw : List UInt8)
  | list (items : List Value)
  | map (entries : List (String × Value))
  | error (message : String)

namespace Value

instance : Inhabited Value := ⟨.nil⟩

/-- The name of a value's type. -/
def typeName : Value → String
  | .nil => "nil"
  | .int _ => "int"
  | .float _ => "float"
  | .string _ => "string"
  | .comment _ => "comment"
  | .funcName _ => "funcname"
  | .fieldName _ => "fieldname"
  | .json _ => "json"
  | .list _ => "list"
  | .map _ => "map"
  | .error _ => "error"

/-- Whether the value is absent. -/
def isNil : Value → Bool
  | .nil => true
  | _ => false

/-- Whether the value is an error. -/
def isError : Value → Bool
  | .error _ => true
  | _ => false

/-- The integer of an integer. -/
def int? : Value → Option Int64
  | .int n => some n
  | _ => none

/-- The double of a number, the nearest one for an integer. -/
def float? : Value → Option Float
  | .int n => some (Float.ofInt n.toInt)
  | .float x => some x
  | _ => none

/-- The text of a string. -/
def string? : Value → Option String
  | .string s => some s
  | _ => none

mutual

/-- Equality of values as data: numbers of one type compare by value, so that the two zeros are
equal and what is not a number differs from itself; undecoded documents compare by their bytes. -/
def same : Value → Value → Bool
  | .nil, .nil => true
  | .int a, .int b => a == b
  | .float a, .float b => a == b
  | .string a, .string b => a == b
  | .comment a, .comment b => a == b
  | .funcName a, .funcName b => a == b
  | .fieldName a, .fieldName b => a == b
  | .json a, .json b => a == b
  | .list a, .list b => sameItems a b
  | .map a, .map b => sameEntries a b
  | .error a, .error b => a == b
  | _, _ => false

/-- Equality item by item. -/
def sameItems : List Value → List Value → Bool
  | [], [] => true
  | a :: as, b :: bs => same a b && sameItems as bs
  | _, _ => false

/-- Equality entry by entry. -/
def sameEntries : List (String × Value) → List (String × Value) → Bool
  | [], [] => true
  | (k, a) :: as, (l, b) :: bs => k == l && same a b && sameEntries as bs
  | _, _ => false

end

end Value

end CallScript
