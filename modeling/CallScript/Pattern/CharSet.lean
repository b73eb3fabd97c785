import CallScript.Unicode.CaseFolding
import CallScript.Unicode.Property

/-!
# Sets of characters in patterns

A set is kept as the expression that was written, so that two sets can be compared, and is asked
for single code points.
-/

namespace CallScript.Pattern

/-- A set of code points. -/
inductive CharSet where
  | none
  /-- all code points from `low` to `high` -/
  | range (low high : Nat)
  /-- decimal digits of any script -/
  | digit
  /-- the characters of words -/
  | word
  /-- blanks and line breaks -/
  | space
  /-- the general category or script of a loose name -/
  | property (name : String)
  | category (name : String)
  | script (name : String)
  | union (a b : CharSet)
  | inter (a b : CharSet)
  | diff (a b : CharSet)
  | symDiff (a b : CharSet)
  | compl (a : CharSet)
  /-- the set with all case variants of its members -/
  | folded (a : CharSet)
  deriving Repr, DecidableEq

/-- The characters of words: letters, marks, decimal digits, connecting punctuation and joiners. -/
def isWordCode (n : Nat) : Bool :=
  if n < 128 then (Char.ofNat n).isAlphanum || n == 95
  else
    Unicode.alphabetic.containsCode n || Unicode.mark.any (·.containsCode n) ||
      Unicode.decimalNumber.containsCode n || Unicode.connectorPunctuation.containsCode n ||
      n == 0x200c || n == 0x200d

/-- Whether some tables, if they are known, have a code point. -/
def inTables (tables : Option (List Unicode.Ranges)) (n : Nat) : Bool :=
  (tables.getD []).any (·.containsCode n)

/-- Whether a code point is a member. -/
def CharSet.contains : CharSet → Nat → Bool
  | .none, _ => false
  | .range low high, n => low ≤ n && n ≤ high
  | .digit, n => Unicode.decimalNumber.containsCode n
  | .word, n => isWordCode n
  | .space, n => Unicode.whiteSpace.containsCode n
  | .property name, n => inTables (Unicode.property? name) n
  | .category name, n => inTables (Unicode.category? name) n
  | .script name, n => inTables (Unicode.script? name) n
  | .union a b, n => a.contains n || b.contains n
  | .inter a b, n => a.contains n && b.contains n
  | .diff a b, n => a.contains n && !b.contains n
  | .symDiff a b, n => a.contains n != b.contains n
  | .compl a, n => !a.contains n
  | .folded a, n => (Unicode.caseVariants n).any a.contains

/-- The set of one character. -/
def CharSet.char (c : Char) : CharSet :=
  .range c.toNat c.toNat

/-- The union of sets. -/
def CharSet.unionAll : List CharSet → CharSet
  | [] => .none
  | [a] => a
  | a :: as => .union a (unionAll as)

/-- A set of ASCII ranges. -/
def CharSet.ascii (ranges : List (Char × Char)) : CharSet :=
  unionAll (ranges.map fun (low, high) => .range low.toNat high.toNat)

/-- The named ASCII classes. -/
def CharSet.asciiClass? (name : String) : Option CharSet :=
  match name with
  | "alnum" => some (ascii [('0', '9'), ('A', 'Z'), ('a', 'z')])
  | "alpha" => some (ascii [('A', 'Z'), ('a', 'z')])
  | "ascii" => some (.range 0 127)
  | "blank" => some (ascii [('\t', '\t'), (' ', ' ')])
  | "cntrl" => some (.union (.range 0 31) (.range 127 127))
  | "digit" => some (ascii [('0', '9')])
  | "graph" => some (ascii [('!', '~')])
  | "lower" => some (ascii [('a', 'z')])
  | "print" => some (ascii [(' ', '~')])
  | "punct" => some (ascii [('!', '/'), (':', '@'), ('[', '\x60'), ('\x7b', '~')])
  | "space" => some (.union (.range 9 13) (.range 32 32))
  | "upper" => some (ascii [('A', 'Z')])
  | "word" => some (ascii [('0', '9'), ('A', 'Z'), ('_', '_'), ('a', 'z')])
  | "xdigit" => some (ascii [('0', '9'), ('A', 'F'), ('a', 'f')])
  | _ => Option.none

end CallScript.Pattern
