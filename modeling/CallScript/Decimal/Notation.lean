import CallScript.Decimal.Digits
import CallScript.Decimal.Shortest

/-!
# Written forms of decimals

A decimal is written positionally or with an exponent. The canonical form of a double never uses
an exponent and always shows that the number is a double; the form in JSON uses an exponent
outside a range of magnitudes.
-/

namespace CallScript.Decimal

/-- A row of zeros. -/
def zeros (n : Nat) : List Char :=
  List.replicate n '0'

/-- A decimal in positional notation with at least one digit on either side of the point. -/
def positional (d : Scientific) : List Char :=
  let digits := natText d.digits
  match d.exponent with
  | .ofNat k => digits ++ zeros k ++ ['.', '0']
  | .negSucc k =>
      let places := k + 1
      if places < digits.length then
        digits.take (digits.length - places) ++ '.' :: digits.drop (digits.length - places)
      else '0' :: '.' :: (zeros (places - digits.length) ++ digits)

/-- A decimal with one digit before the point and an exponent that always has its sign. -/
def exponential (d : Scientific) : List Char :=
  let digits := natText d.digits
  let mantissa := match digits with
    | first :: second :: rest => first :: '.' :: second :: rest
    | _ => digits
  let exponent := d.exponent + (digits.length - 1 : Nat)
  mantissa ++ 'e' :: (if exponent < 0 then ['-'] else ['+']) ++ natText exponent.natAbs

/-- A minus sign for negative numbers, the negative zero included. -/
def signText (negative : Bool) : List Char :=
  if negative then ['-'] else []

/-- The canonical text of a double: whole numbers in full with one zero after the point, other
numbers with the fewest digits that read back, halves going up. -/
def floatText (x : Float) : List Char :=
  if x.isNaN then "NaN".toList
  else
    let b := Binary64.ofFloat x
    let magnitude :=
      if x.isInf then "inf".toList
      else if b.isWhole then natText b.whole ++ ['.', '0']
      else positional (shortest .up b)
    signText b.negative ++ magnitude

/-- The text of a finite double in JSON: the fewest digits that read back, halves going to the
even digit; positional from 10⁻⁵ up to 10¹⁶ and with an exponent beyond. -/
def jsonFloatText (x : Float) : List Char :=
  let b := Binary64.ofFloat x
  let d := shortest .toEven b
  let exponent := d.exponent + ((natText d.digits).length - 1 : Nat)
  let magnitude :=
    if b.mantissa = 0 ∨ (-5 ≤ exponent ∧ exponent < 16) then positional d else exponential d
  signText b.negative ++ magnitude

end CallScript.Decimal
