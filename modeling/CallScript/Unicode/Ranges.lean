/-!
# Sets of code points

A property of characters is given as a list of closed intervals of code points in increasing order.
-/

namespace CallScript.Unicode

/-- Closed intervals of code points. -/
abbrev Ranges := List (Nat × Nat)

/-- Whether a code point lies in one of the intervals. -/
def Ranges.containsCode (rs : Ranges) (n : Nat) : Bool :=
  rs.any fun (lo, hi) => lo ≤ n && n ≤ hi

/-- Whether a character lies in one of the intervals. -/
def Ranges.contains (rs : Ranges) (c : Char) : Bool :=
  rs.containsCode c.toNat

end CallScript.Unicode
