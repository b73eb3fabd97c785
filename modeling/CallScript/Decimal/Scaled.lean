import CallScript.Decimal.Binary64

/-!
# Scaled decimals of 96 bits

A scaled decimal is a whole number below 2⁹⁶ divided by a power of ten up to 10²⁸. Sums of such
numbers do not pick up the binary rounding of doubles. This module converts doubles to scaled
decimals and back, and adds them.
-/

namespace CallScript.Decimal

/-- The number `± magnitude / 10 ^ scale`. -/
structure Scaled where
  negative : Bool
  magnitude : Nat
  scale : Nat
  deriving Repr, DecidableEq

namespace Scaled

/-- Magnitudes lie below this bound. -/
def limit : Nat := 0x1000000000000000000000000

/-- A whole number as a scaled decimal. -/
def ofInt (n : Int) : Scaled :=
  ⟨decide (n < 0), n.natAbs, 0⟩

/-- Replaces halvings by tenths: one halving is a multiplication by five and a division by ten.
Where the product would not fit, the lowest bit is dropped. -/
def halve : Nat → Nat → Int → Nat × Int
  | 0, m, e => (m, e)
  | steps + 1, m, e =>
      if m % 2 = 0 then halve steps (m / 2) (e + 1)
      else if m * 5 < limit then halve steps (m * 5) e
      else halve steps (m / 2) (e + 1)

/-- Carries out doublings: while they fit they are multiplications by two, then divisions by five
that leave a factor of ten behind. -/
def double : Nat → Nat → Int → Option (Nat × Int)
  | 0, m, e => some (m, e)
  | steps + 1, m, e =>
      if m < 0x800000000000000000000000 then double steps (m * 2) (e - 1)
      else if (steps + 1 : Int) < e * 2 then none
      else double steps (m / 5) e

/-- Multiplies by ten as often as asked, as long as the result fits. -/
def tenfold : Nat → Nat → Option Nat
  | 0, m => some m
  | steps + 1, m => if limit ≤ m * 10 then none else tenfold steps (m * 10)

/-- Drops decimal places until 28 are left, each time rounding a half up; a magnitude that
vanishes has no places. -/
def dropTo28 : Nat → Nat → Nat → Nat × Nat
  | 0, m, places => (m, places)
  | steps + 1, m, places =>
      if places ≤ 28 then (m, places)
      else if m / 10 = 0 then (0, 0)
      else dropTo28 steps (m / 10 + if 5 ≤ m % 10 then 1 else 0) (places - 1)

/-- Drops decimal places while the magnitude has more than 52 bits, each time rounding a half
up. -/
def dropTo52Bits : Nat → Nat → Nat × Nat
  | m, 0 => (m, 0)
  | m, places + 1 =>
      if m < 0x10000000000000 then (m, places + 1)
      else dropTo52Bits (m / 10 + if 5 ≤ m % 10 then 1 else 0) places

/-- Drops trailing zeros of the fraction. -/
def trim : Nat → Nat → Nat × Nat
  | m, 0 => (m, 0)
  | m, places + 1 => if m % 10 = 0 then trim (m / 10) places else (m, places + 1)

/-- The scaled decimal nearest to a double within its significant digits; `none` for doubles that
are not finite or too large. -/
def ofFloat? (x : Float) : Option Scaled :=
  if !x.isFinite then none
  else
    let b := Binary64.ofFloat x
    if b.mantissa = 0 then some ⟨b.negative, 0, 0⟩
    else do
      let (m, e) ← match b.exponent with
        | .ofNat k => double k b.mantissa k
        | .negSucc k => some (halve (k + 1) b.mantissa (-((k : Int) + 1)))
      let (m, places) ← match e with
        | .ofNat k => (tenfold k m).map (·, 0)
        | .negSucc k => some (m, k + 1)
      let (m, places) := dropTo28 places m places
      let (m, places) := dropTo52Bits m places
      let (m, places) := trim m places
      some ⟨b.negative, m, places⟩

/-- The signed magnitude at a scale at least as large as the number's own. -/
def atScale (a : Scaled) (scale : Nat) : Int :=
  let m : Int := (a.magnitude * Nat.pow 10 (scale - a.scale) : Nat)
  if a.negative then -m else m

/-- A natural number divided by a power of ten, a half going to the even neighbour. -/
def roundDiv10 (n k : Nat) : Nat :=
  let unit := Nat.pow 10 k
  let q := n / unit
  let r := n % unit
  if unit < 2 * r ∨ (2 * r = unit ∧ q % 2 = 1) then q + 1 else q

/-- Drops `k` places, and more while the magnitude does not fit. -/
def fit : Nat → Nat → Nat → Nat → Option (Nat × Nat)
  | 0, m, scale, k => if k ≤ scale ∧ roundDiv10 m k < limit then some (roundDiv10 m k, scale - k) else none
  | fuel + 1, m, scale, k =>
      if scale < k then none
      else if roundDiv10 m k < limit then some (roundDiv10 m k, scale - k)
      else fit fuel m scale (k + 1)

/-- The sum, exact where it fits, else with as many places as fit; `none` if even the whole part
does not fit. Zero is neutral, and a sum of zero is positive. -/
def add? (a b : Scaled) : Option Scaled :=
  if a.magnitude = 0 then some b
  else if b.magnitude = 0 then some a
  else
    let scale := max a.scale b.scale
    let total := a.atScale scale + b.atScale scale
    (fit (scale + 1) total.natAbs scale 0).map fun (m, s) => ⟨decide (total < 0), m, s⟩

/-- A power of ten by repeated squaring in doubles. -/
def powTen : Nat → Nat → Float → Float → Float
  | 0, _, r, _ => r
  | fuel + 1, n, r, a =>
      let r := if n % 2 = 1 then r * a else r
      if n / 2 = 0 then r else powTen fuel (n / 2) r (a * a)

/-- The double of a scaled decimal: the whole part and the fraction are added as doubles, and the
sum is rounded to the scale again. -/
def toFloat (a : Scaled) : Float :=
  if a.scale = 0 then
    if a.negative && a.magnitude != 0 then -Float.ofNat a.magnitude else Float.ofNat a.magnitude
  else
    let unit := Nat.pow 10 a.scale
    let whole := Float.ofNat (a.magnitude / unit)
    let fraction := Float.ofNat (a.magnitude % unit) / Float.ofNat unit
    let magnitude :=
      if a.magnitude % unit = 0 then whole
      else
        let t := powTen 8 a.scale 1 10
        roundHalfAway ((whole + fraction) * t) / t
    if a.negative then -magnitude else magnitude

end Scaled

end CallScript.Decimal
