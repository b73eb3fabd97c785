import CallScript.Unicode.Alphabetic
import CallScript.Unicode.GraphemeExtend
import CallScript.Unicode.Number
import CallScript.Unicode.Separator
import CallScript.Unicode.Other

/-!
# Classes of characters

The classes by which source text is divided, and the class of characters that are shown as they
are. For ASCII the answers come from a comparison of code points; the tables serve the rest.
-/

namespace CallScript.Text

/-- Letters of any script, letter numbers, and marks that behave like letters. -/
def isAlphabetic (c : Char) : Bool :=
  if c.toNat < 128 then c.isAlpha else Unicode.alphabetic.contains c

/-- Decimal digits, letter numbers and other numbers of any script. -/
def isNumeric (c : Char) : Bool :=
  if c.toNat < 128 then c.isDigit
  else Unicode.decimalNumber.contains c || Unicode.letterNumber.contains c ||
    Unicode.otherNumber.contains c

/-- Letters and numbers of any script. -/
def isAlphanumeric (c : Char) : Bool :=
  isAlphabetic c || isNumeric c

/-- Whether a character has a form of its own and does not attach to its neighbour: neither a
control, format, private, unassigned or separating code point (the plain space apart) nor a
character that extends the one before it. -/
def isShownAsIs (c : Char) : Bool :=
  if c.toNat < 128 then 32 ≤ c.toNat && c.toNat < 127
  else !(Unicode.graphemeExtend.contains c || Unicode.control.contains c ||
    Unicode.format.contains c || Unicode.privateUse.contains c || Unicode.unassigned.contains c ||
    Unicode.spaceSeparator.contains c || Unicode.lineSeparator.contains c ||
    Unicode.paragraphSeparator.contains c)

end CallScript.Text
