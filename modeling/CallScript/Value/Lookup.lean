import CallScript.Value.Json

/-!
# Looking into values

A map is entered by a key, a list by a decimal index, and an undecoded document by whatever enters
what it decodes to.
-/

namespace CallScript.Value

/-- The number written as a list index: decimal digits after an optional plus sign, within 64
bits. -/
def index? (key : String) : Option Nat :=
  let digits := match key.toList with
    | '+' :: rest => rest
    | all => all
  if digits.isEmpty || !digits.all Char.isDigit then none
  else
    let n := Decimal.readNat digits
    if n < 0x10000000000000000 then some n else none

/-- What a key finds in a map or list. -/
def member? : Value → String → Option Value
  | .map entries, key => Dict.get? entries key
  | .list items, key => (index? key).bind fun i => items[i]?
  | _, _ => none

/-- A document decoded, any other value as it is; `none` if it cannot be decoded. -/
def opened? : Value → Option Value
  | .json raw => (decode raw).toOption
  | v => some v

/-- What a key finds in a value. -/
def child? (v : Value) (key : String) : Option Value :=
  v.opened?.bind (·.member? key)

/-- What a row of keys finds, each looked up in what the one before it found. A document on the way
is decoded once, and the keys go on in what it decodes to. -/
def walk? : Value → List String → Option Value
  | v, [] => some v
  | v, key :: keys => v.opened?.bind fun w => (w.child? key).bind (·.walk? keys)

/-- Walking a row of keys is walking its parts one after the other. -/
theorem walk?_append (v : Value) (keys more : List String) :
    v.walk? (keys ++ more) = (v.walk? keys).bind (·.walk? more) := by
  induction keys generalizing v with
  | nil => rfl
  | cons key keys ih =>
      simp only [List.cons_append, walk?, Option.bind_assoc, ih]

end CallScript.Value
