/-!
# The fields of a double

A finite double is a whole number of powers of two. This module takes the sign, the mantissa and
the exponent out of the bits, so that text and rounding are computed in exact arithmetic.
-/

namespace CallScript.Decimal

/-- The number `± mantissa * 2 ^ exponent`. -/
structure Binary64 where
  negative : Bool
  mantissa : Nat
  exponent : Int
  deriving Repr, DecidableEq

namespace Binary64

/-- The fields of a double; the hidden bit is part of the mantissa, which is not reduced. The
answer is meaningful for finite doubles. -/
def ofFloat (x : Float) : Binary64 :=
  let bits := x.toBits.toNat
  let fraction : Nat := bits % 0x10000000000000
  let exponent : Nat := bits / 0x10000000000000 % 0x800
  { negative := decide (0x8000000000000000 ≤ bits)
    mantissa := if exponent = 0 then fraction else 0x10000000000000 + fraction
    exponent := if exponent = 0 then -1074 else (exponent : Int) - 1075 }

/-- The whole part of the magnitude. -/
def whole (b : Binary64) : Nat :=
  match b.exponent with
  | .ofNat k => b.mantissa * Nat.pow 2 k
  | .negSucc k => b.mantissa / Nat.pow 2 (k + 1)

/-- The numerator of the fractional part of the magnitude over `fractionUnit`. -/
def fraction (b : Binary64) : Nat :=
  match b.exponent with
  | .ofNat _ => 0
  | .negSucc k => b.mantissa % Nat.pow 2 (k + 1)

/-- The denominator of `fraction`. -/
def fractionUnit (b : Binary64) : Nat :=
  match b.exponent with
  | .ofNat _ => 1
  | .negSucc k => Nat.pow 2 (k + 1)

/-- Whether the number is a whole number. -/
def isWhole (b : Binary64) : Bool :=
  b.fraction == 0

end Binary64

/-- Truncation toward zero into the range of 64-bit integers: what lies outside the range goes to
its nearer end, and what is not a number to zero. -/
def truncate (x : Float) : Int64 :=
  if x.isNaN then 0
  else
    let b := Binary64.ofFloat x
    if b.negative then
      if x.isInf || 0x8000000000000000 ≤ b.whole then Int64.minValue else Int64.ofInt (-(b.whole : Int))
    else
      if x.isInf || 0x8000000000000000 ≤ b.whole then Int64.maxValue else Int64.ofInt b.whole

/-- The nearest whole double, a half going away from zero; for finite doubles. -/
def roundHalfAway (x : Float) : Float :=
  let b := Binary64.ofFloat x
  if b.isWhole then x
  else
    let n := if b.fractionUnit ≤ 2 * b.fraction then b.whole + 1 else b.whole
    if b.negative then -Float.ofNat n else Float.ofNat n

end CallScript.Decimal
