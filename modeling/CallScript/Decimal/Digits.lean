/-!
# Decimal digits

Whole numbers written in decimal and read back.
-/

namespace CallScript.Decimal

/-- A natural number in decimal, without leading zeros. -/
def natText (n : Nat) : List Char :=
  Nat.toDigits 10 n

/-- An integer in decimal, with a minus sign if it is negative. -/
def intText (n : Int) : List Char :=
  if n < 0 then '-' :: natText n.natAbs else natText n.natAbs

/-- The number that a row of decimal digits stands for. -/
def readNat (digits : List Char) : Nat :=
  Nat.ofDigitChars 10 digits 0

/-- Reading undoes writing. -/
@[simp] theorem readNat_natText (n : Nat) : readNat (natText n) = n :=
  Nat.ofDigitChars_toDigits (by decide) (by decide)

/-- A written number holds digits only. -/
theorem isDigit_of_mem_natText {n : Nat} {c : Char} (h : c ∈ natText n) : c.isDigit = true :=
  Nat.isDigit_of_mem_toDigits (by decide) (by decide) h

/-- A written number is never empty. -/
theorem natText_ne_nil (n : Nat) : natText n ≠ [] :=
  Nat.toDigits_ne_nil

end CallScript.Decimal
