import CallScript.Dict

/-!
# JSON documents

A number is either a whole number that fits a signed or an unsigned 64-bit word, or a finite
double: nothing else can be written down or read back.
-/

namespace CallScript

/-- A number of a JSON document. -/
inductive Json.Number where
  /-- a whole number of 64 bits, signed or unsigned -/
  | whole (n : Int) (fits : -0x8000000000000000 ≤ n ∧ n < 0x10000000000000000)
  /-- a finite double -/
  | real (x : Float) (finite : x.isFinite = true)
  deriving Repr, DecidableEq

/-- A JSON document; the members of an object are kept as a dictionary. -/
inductive Json where
  | null
  | bool (b : Bool)
  | number (n : Json.Number)
  | string (s : String)
  | array (items : List Json)
  | object (members : List (String × Json))

namespace Json

/-- The whole number of a 64-bit integer. -/
def ofInt64 (n : Int64) : Json :=
  .number (.whole n.toInt (by have := Int64.le_toInt n; have := Int64.toInt_lt n; omega))

/-- A double as a document: the ones that are not finite have no number and become `null`. -/
def ofFloat (x : Float) : Json :=
  if h : x.isFinite = true then .number (.real x h) else .null

end Json

end CallScript
