import CallScript.Decimal.Binary64

/-!
# The shortest decimal of a double

Each finite double stands for the interval of reals that round to it. Its shortest decimal is the
point of that interval on the coarsest grid of multiples of a power of ten that has one, and of two
such points the one nearer to the double. Everything is computed in natural numbers.
-/

namespace CallScript.Decimal

/-- The decimal `digits * 10 ^ exponent`. -/
structure Scientific where
  digits : Nat
  exponent : Int
  deriving Repr, DecidableEq

/-- Where a decimal goes that lies exactly between its two neighbours. -/
inductive Tie where
  /-- to the larger magnitude -/
  | up
  /-- to the neighbour with an even last digit -/
  | toEven
  deriving Repr, DecidableEq

/-- The reals that round to a positive double, as fractions over one denominator: the double
itself, and the ends of the interval, which belong to it if `closed`. -/
structure RoundingInterval where
  center : Nat
  low : Nat
  high : Nat
  unit : Nat
  closed : Bool
  deriving Repr

namespace RoundingInterval

/-- The interval of a double with the given fields. The lower neighbour of a power of two is only
half as far away as the upper one, unless both share the least exponent. -/
def ofBinary64 (b : Binary64) : RoundingInterval :=
  let narrow := b.mantissa == 0x10000000000000 && decide (-1074 < b.exponent)
  let (factor, unit) := match b.exponent - 2 with
    | .ofNat k => (Nat.pow 2 k, 1)
    | .negSucc k => (1, Nat.pow 2 (k + 1))
  { center := 4 * b.mantissa * factor
    low := (4 * b.mantissa - if narrow then 1 else 2) * factor
    high := (4 * b.mantissa + 2) * factor
    unit := unit
    closed := b.mantissa % 2 == 0 }

/-- Whether `n` lies in the interval once interval and `n` are brought to one unit. -/
def contains (i : RoundingInterval) (scale n : Nat) : Bool :=
  if i.closed then i.low * scale ≤ n && n ≤ i.high * scale
  else i.low * scale < n && n < i.high * scale

/-- The point of the interval on the grid `10 ^ k` that is nearest to its center, if there is
one. -/
def onGrid (i : RoundingInterval) (tie : Tie) (k : Int) : Option Scientific :=
  let (scale, step) := match k with
    | .ofNat n => (1, i.unit * Nat.pow 10 n)
    | .negSucc n => (Nat.pow 10 (n + 1), i.unit)
  let below := i.center * scale / step
  let rest := i.center * scale % step
  let inBelow := i.contains scale (below * step)
  let inAbove := i.contains scale ((below + 1) * step)
  let preferAbove := decide (step < 2 * rest) ||
    (2 * rest == step && (tie == .up || below % 2 == 1))
  if inBelow && !(inAbove && preferAbove) then some ⟨below, k⟩
  else if inAbove then some ⟨below + 1, k⟩
  else none

/-- Tries the grids from `10 ^ k` downwards. -/
def firstGrid (i : RoundingInterval) (tie : Tie) : Nat → Int → Scientific
  | 0, k => ⟨0, k⟩
  | fuel + 1, k => match i.onGrid tie k with
      | some d => d
      | none => firstGrid i tie fuel (k - 1)

end RoundingInterval

/-- The shortest decimal that reads back as the magnitude of a finite double. No grid above the
number's own digits has a point in the interval, and one 400 places below the unit always has. -/
def shortest (tie : Tie) (b : Binary64) : Scientific :=
  if b.mantissa = 0 then ⟨0, 0⟩
  else
    let places := (Nat.toDigits 10 b.whole).length
    (RoundingInterval.ofBinary64 b).firstGrid tie (places + 400) places

end CallScript.Decimal
