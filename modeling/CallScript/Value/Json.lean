import CallScript.Value.Text
import CallScript.Json.Reader

/-!
# Values and JSON

Documents become values, with the two truth values as one and zero and with whole numbers beyond
the signed range as doubles. Values become documents: names and comments as strings, errors as
objects, undecoded documents as what they decode to.
-/

namespace CallScript.Value

/-- The value of a number: an integer if it fits, else the nearest double. -/
def ofNumber : Json.Number → Value
  | .whole n _ => if n < 0x8000000000000000 then .int (Int64.ofInt n) else .float (Float.ofInt n)
  | .real x _ => .float x

mutual

/-- The value of a document. -/
def ofJson : CallScript.Json → Value
  | .null => .nil
  | .bool b => .int (if b then 1 else 0)
  | .number n => ofNumber n
  | .string s => .string s
  | .array items => .list (ofItems items)
  | .object members => .map (ofMembers members)

/-- The values of the items of a list. -/
def ofItems : List CallScript.Json → List Value
  | [] => []
  | x :: xs => ofJson x :: ofItems xs

/-- The values of the members of an object. -/
def ofMembers : List (String × CallScript.Json) → List (String × Value)
  | [] => []
  | (k, x) :: ms => (k, ofJson x) :: ofMembers ms

end

/-- The document in raw bytes; bytes that are none stand for their text. -/
def rawToJson (raw : List UInt8) : CallScript.Json :=
  match Json.decode raw with
  | .ok doc => doc
  | .error _ => .string (String.ofList (Text.Utf8.decodeLossy raw))

mutual

/-- The document of a value. -/
def toJson : Value → CallScript.Json
  | .nil => .null
  | .int n => Json.ofInt64 n
  | .float x => Json.ofFloat x
  | .string s => .string s
  | .comment t => .string t
  | .funcName name => .string (render (.funcName name))
  | .fieldName path => .string (render (.fieldName path))
  | .json raw => rawToJson raw
  | .list items => .array (itemsToJson items)
  | .map entries => .object (entriesToJson entries)
  | .error message => .object [("error", .string message)]

/-- The documents of the items of a list. -/
def itemsToJson : List Value → List CallScript.Json
  | [] => []
  | x :: xs => toJson x :: itemsToJson xs

/-- The documents of the entries of a map. -/
def entriesToJson : List (String × Value) → List (String × CallScript.Json)
  | [] => []
  | (k, x) :: xs => (k, toJson x) :: entriesToJson xs

end

/-- The value of a document given as bytes. -/
def decode (raw : List UInt8) : Except Json.Fault Value :=
  (Json.decode raw).map ofJson

end CallScript.Value
