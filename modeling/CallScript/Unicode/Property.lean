import CallScript.Unicode.Alphabetic
import CallScript.Unicode.Letter
import CallScript.Unicode.Mark
import CallScript.Unicode.Number
import CallScript.Unicode.Punctuation
import CallScript.Unicode.Symbol
import CallScript.Unicode.Separator
import CallScript.Unicode.Other
import CallScript.Unicode.Script
import CallScript.Unicode.WhiteSpace

/-!
# Properties by name

General categories and scripts under their names. Names are compared loosely: case, blanks, hyphens
and underscores do not matter, nor does a leading `is`.
-/

namespace CallScript.Unicode

/-- The letters of all cases. -/
def casedLetter : List Ranges := [uppercaseLetter, lowercaseLetter, titlecaseLetter]

/-- All letters. -/
def letter : List Ranges := casedLetter ++ [modifierLetter, otherLetter]

/-- All marks. -/
def mark : List Ranges := [nonspacingMark, spacingMark, enclosingMark]

/-- All numbers. -/
def number : List Ranges := [decimalNumber, letterNumber, otherNumber]

/-- All punctuation. -/
def punctuation : List Ranges :=
  [connectorPunctuation, dashPunctuation, openPunctuation, closePunctuation, initialPunctuation,
    finalPunctuation, otherPunctuation]

/-- All symbols. -/
def symbol : List Ranges := [mathSymbol, currencySymbol, modifierSymbol, otherSymbol]

/-- All separators. -/
def separator : List Ranges := [spaceSeparator, lineSeparator, paragraphSeparator]

/-- All other code points. -/
def other : List Ranges := [control, format, privateUse, unassigned]

/-- The general categories and the groups of them under their loose names. -/
def categories : List (List String × List Ranges) := [
  (["lu", "uppercaseletter"], [uppercaseLetter]),
  (["ll", "lowercaseletter"], [lowercaseLetter]),
  (["lt", "titlecaseletter"], [titlecaseLetter]),
  (["lc", "casedletter"], casedLetter),
  (["lm", "modifierletter"], [modifierLetter]),
  (["lo", "otherletter"], [otherLetter]),
  (["l", "letter"], letter),
  (["mn", "nonspacingmark"], [nonspacingMark]),
  (["mc", "spacingmark"], [spacingMark]),
  (["me", "enclosingmark"], [enclosingMark]),
  (["m", "mark", "combiningmark"], mark),
  (["nd", "decimalnumber", "digit"], [decimalNumber]),
  (["nl", "letternumber"], [letterNumber]),
  (["no", "othernumber"], [otherNumber]),
  (["n", "number"], number),
  (["pc", "connectorpunctuation"], [connectorPunctuation]),
  (["pd", "dashpunctuation"], [dashPunctuation]),
  (["ps", "openpunctuation"], [openPunctuation]),
  (["pe", "closepunctuation"], [closePunctuation]),
  (["pi", "initialpunctuation"], [initialPunctuation]),
  (["pf", "finalpunctuation"], [finalPunctuation]),
  (["po", "otherpunctuation"], [otherPunctuation]),
  (["p", "punctuation", "punct"], punctuation),
  (["sm", "mathsymbol"], [mathSymbol]),
  (["sc", "currencysymbol"], [currencySymbol]),
  (["sk", "modifiersymbol"], [modifierSymbol]),
  (["so", "othersymbol"], [otherSymbol]),
  (["s", "symbol"], symbol),
  (["zs", "spaceseparator"], [spaceSeparator]),
  (["zl", "lineseparator"], [lineSeparator]),
  (["zp", "paragraphseparator"], [paragraphSeparator]),
  (["z", "separator"], separator),
  (["cc", "control", "cntrl"], [control]),
  (["cf", "format"], [format]),
  (["cs", "surrogate"], []),
  (["co", "privateuse"], [privateUse]),
  (["cn", "unassigned"], [unassigned]),
  (["c", "other"], other),
  (["any"], [[(0, 0x10ffff)]]),
  (["assigned"], letter ++ mark ++ number ++ punctuation ++ symbol ++ separator ++
    [control, format, privateUse]),
  (["ascii"], [[(0, 0x7f)]])]

/-- Other properties of characters under their loose names. -/
def binaryProperties : List (List String × List Ranges) := [
  (["alpha", "alphabetic"], [alphabetic]),
  (["space", "wspace", "whitespace"], [whiteSpace])]

/-- The entry of a table under a name. -/
def findNamed? {α : Type} (table : List (List String × α)) (name : String) : Option α :=
  (table.find? (·.1.contains name)).map (·.2)

/-- The loose form of a name. -/
def looseName (name : List Char) : String :=
  let kept := (name.filter fun c => c.toNat < 128 && !(c == ' ' || c == '_' || c == '-')).map Char.toLower
  let bare := match kept with
    | 'i' :: 's' :: rest => if rest == ['c'] then kept else rest
    | _ => kept
  String.ofList bare

/-- The general category or group of them with a loose name. -/
def category? (name : String) : Option (List Ranges) :=
  findNamed? categories name

/-- The script with a loose name. -/
def script? (name : String) : Option (List Ranges) :=
  (findNamed? scripts name).map ([·])

/-- The property with a loose name: a binary one, else a general category, else a script. -/
def property? (name : String) : Option (List Ranges) :=
  ((findNamed? binaryProperties name).or (category? name)).or (script? name)

end CallScript.Unicode
