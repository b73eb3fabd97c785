import CallScript.Standard.Fault
import CallScript.Decimal.Scaled

/-!
# Sums of numbers

Integers are added exactly, and a total beyond 64 bits is a fault. As soon as a float takes part
the total is kept as a scaled decimal, so that decimal fractions add up without binary rounding;
where that does not fit, the total is a double.
-/

namespace CallScript.Standard

open CallScript.Decimal

/-- A running total. -/
inductive Total where
  | int (n : Int64)
  | decimal (d : Scaled)
  | float (x : Float)

namespace Total

/-- The total as a double. -/
def toFloat : Total → Float
  | .int n => Float.ofInt n.toInt
  | .decimal d => d.toFloat
  | .float x => x

/-- The total as a scaled decimal, unless it is a double already. -/
def scaled? : Total → Option Scaled
  | .int n => some (Scaled.ofInt n.toInt)
  | .decimal d => some d
  | .float _ => none

/-- Adds a number given as a scaled decimal, if it is one, and as a double. -/
def addInexact (total : Total) (exact : Option Scaled) (approximate : Float) : Total :=
  let sum := do
    let a ← total.scaled?
    let b ← exact
    a.add? b
  match sum with
  | some d => .decimal d
  | none => .float (total.toFloat + approximate)

/-- The exact sum of two integers if it has 64 bits. -/
def addInt (a b : Int64) : Except Fault Total :=
  let n := a.toInt + b.toInt
  if -0x8000000000000000 ≤ n ∧ n < 0x8000000000000000 then .ok (.int (Int64.ofInt n)) else .error .overflow

/-- Adds a value. -/
def add : Total → Value → Except Fault Total
  | .int a, .int b => addInt a b
  | total, .int b => .ok (total.addInexact (some (Scaled.ofInt b.toInt)) (Float.ofInt b.toInt))
  | total, .float x => .ok (total.addInexact (Scaled.ofFloat? x) x)
  | _, value => .error (.notNumber value.typeName)

/-- The total as a value. -/
def toValue : Total → Value
  | .int n => .int n
  | total => .float total.toFloat

end Total

/-- The sum of values from the first to the last. -/
def sum (values : List Value) : Except Fault Value :=
  (values.foldlM Total.add (.int 0)).map Total.toValue

end CallScript.Standard
