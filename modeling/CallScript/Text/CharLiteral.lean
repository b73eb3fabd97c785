import CallScript.Text.CharClass

/-!
# A character shown between quotes

Diagnostics show one character between single quotes. Characters without a form of their own are
written by their code point.
-/

namespace CallScript.Text

/-- A code point in lower-case hexadecimal. -/
def hexDigits (n : Nat) : List Char :=
  Nat.toDigits 16 n

/-- A character as a diagnostic shows it. -/
def showChar (c : Char) : List Char :=
  let body := match c with
    | '\x00' => ['\\', '0']
    | '\t' => ['\\', 't']
    | '\r' => ['\\', 'r']
    | '\n' => ['\\', 'n']
    | '\'' => ['\\', '\'']
    | '\\' => ['\\', '\\']
    | c => if isShownAsIs c then [c]
        else ['\\', 'u', '\x7b'] ++ hexDigits c.toNat ++ ['\x7d']
  '\'' :: (body ++ ['\''])

end CallScript.Text
