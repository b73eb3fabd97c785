import CallScript.Json.Basic
import CallScript.Json.Fault
import CallScript.Text.Utf8

/-!
# Reading JSON

A reader takes the bytes still to be read and gives what it read with the bytes after it, or the
first fault. Whitespace is the space, the tab and the two line breaks. Containers nest at most 127
deep. A number that has no fraction and no exponent stays whole if it fits 64 bits; other numbers
are doubles, computed from at most 64 bits of their digits.
-/

namespace CallScript.Json

/-- A step of reading. -/
abbrev Reader (α : Type) := List UInt8 → Except Fault (α × List UInt8)

/-- The byte of an ASCII character. -/
abbrev byte (c : Char) : UInt8 := c.toUInt8

/-- The whitespace between the parts of a document. -/
def isSpace (b : UInt8) : Bool :=
  b == 32 || b == 9 || b == 10 || b == 13

/-- What is left after whitespace. -/
def skipSpace (input : List UInt8) : List UInt8 :=
  input.dropWhile isSpace

/-- The ten decimal digits. -/
def isDigit (b : UInt8) : Bool :=
  48 ≤ b && b ≤ 57

/-- The value of a decimal digit. -/
def digit (b : UInt8) : Nat :=
  b.toNat - 48

/-- Reads the rest of one of the three words and gives what the word stands for. -/
def readWord (json : Json) : List UInt8 → Reader Json
  | [], input => .ok (json, input)
  | _ :: _, [] => .error (.here .endInValue [])
  | e :: es, b :: rest =>
      if b = e then readWord json es rest else .error (.here .expectedIdent rest)

/-! ## Numbers -/

/-- Takes digits into a significand as long as it fits 64 bits; gives the significand, the number
of digits taken and the bytes left. -/
def takeDigits : Nat → Nat → List UInt8 → Nat × Nat × List UInt8
  | significand, count, [] => (significand, count, [])
  | significand, count, b :: rest =>
      let next := significand * 10 + digit b
      if isDigit b && next < 0x10000000000000000 then takeDigits next (count + 1) rest
      else (significand, count, b :: rest)

/-- A power of ten as a double. -/
def powTen (n : Nat) : Float :=
  Float.ofScientific 1 false n

/-- Multiplies a double by a power of ten, in steps of at most 308 places; `none` if the result is
too large. Two steps down bring any 64-bit significand to zero. -/
def shift : Nat → Float → Int → Option Float
  | 0, f, _ => some f
  | steps + 1, f, e =>
      if e.natAbs ≤ 308 then
        if 0 ≤ e then
          let y := f * powTen e.natAbs
          if y.isInf then none else some y
        else some (f / powTen e.natAbs)
      else if f == 0 then some f
      else if 0 ≤ e then none
      else shift steps (f / powTen 308) (e + 308)

/-- A double as a number; the ones that are not finite are out of range. -/
def finish (negative : Bool) (magnitude : Option Float) : Reader Number := fun rest =>
  match magnitude with
  | none => .error (.here .numberOutOfRange rest)
  | some f =>
      let x := if negative then -f else f
      if h : x.isFinite = true then .ok (.real x h, rest)
      else .error (.here .numberOutOfRange rest)

/-- The double with the given significand and decimal exponent. -/
def real (negative : Bool) (significand : Nat) (exponent : Int) : Reader Number :=
  finish negative (shift 4 (Float.ofNat significand) exponent)

/-- Takes the digits of an exponent; `none` at the first digit that takes it beyond 31 bits. -/
def takeExponent : Nat → List UInt8 → Option Nat × List UInt8
  | e, [] => (some e, [])
  | e, b :: rest =>
      if isDigit b then
        if e * 10 + digit b < 0x80000000 then takeExponent (e * 10 + digit b) rest else (none, rest)
      else (some e, b :: rest)

/-- Reads what follows the exponent mark; `exponent` is the one known so far. -/
def exponentPart (negative : Bool) (significand : Nat) (exponent : Int) : Reader Number := fun input =>
  let (down, input) := match input with
    | b :: rest => if b = byte '+' then (false, rest) else if b = byte '-' then (true, rest)
        else (false, input)
    | [] => (false, [])
  match input with
  | [] => .error (.here .endInValue [])
  | b :: rest =>
      if !isDigit b then .error (.here .invalidNumber rest)
      else match takeExponent (digit b) rest with
        | (some e, rest) => real negative significand (if down then exponent - e else exponent + e) rest
        | (none, rest) =>
            if significand ≠ 0 ∧ down = false then .error (.here .numberOutOfRange rest)
            else finish negative (some 0) (rest.dropWhile isDigit)

/-- Reads an exponent if there is one. -/
def exponent? (negative : Bool) (significand : Nat) (exponent : Int) : Reader Number
  | [] => real negative significand exponent []
  | b :: rest =>
      if b = byte 'e' ∨ b = byte 'E' then exponentPart negative significand exponent rest
      else real negative significand exponent (b :: rest)

/-- Reads what follows the point. Digits that do not fit the significand are passed over. -/
def fractionPart (negative : Bool) (significand : Nat) (exponent : Int) : Reader Number := fun input =>
  match input with
  | [] => .error (.next .endInValue [])
  | b :: _ =>
      if !isDigit b then .error (.next .invalidNumber input)
      else
        let (significand, count, rest) := takeDigits significand 0 input
        exponent? negative significand (exponent - count) (rest.dropWhile isDigit)

/-- The number without fraction and exponent: whole where it fits, and a double for the negative
zero and beyond 64 bits. -/
def wholeNumber (negative : Bool) (significand : Nat) : Reader Number := fun rest =>
  if negative then
    if h : 0 < significand ∧ significand ≤ 0x8000000000000000 then
      .ok (.whole (-(significand : Int)) (by omega), rest)
    else finish true (some (Float.ofNat significand)) rest
  else
    if h : significand < 0x10000000000000000 then .ok (.whole significand (by omega), rest)
    else finish false (some (Float.ofNat significand)) rest

/-- Reads what follows the whole part, of which `dropped` digits did not fit. -/
def afterWhole (negative : Bool) (significand dropped : Nat) : Reader Number
  | [] => if dropped = 0 then wholeNumber negative significand [] else real negative significand dropped []
  | b :: rest =>
      if b = byte '.' then fractionPart negative significand dropped rest
      else if b = byte 'e' ∨ b = byte 'E' then exponentPart negative significand dropped rest
      else if dropped = 0 then wholeNumber negative significand (b :: rest)
      else real negative significand dropped (b :: rest)

/-- Reads a number after its sign. -/
def readNumber (negative : Bool) : Reader Number
  | [] => .error (.here .endInValue [])
  | b :: rest =>
      if b = byte '0' then
        match rest with
        | [] => afterWhole negative 0 0 []
        | d :: _ => if isDigit d then .error (.next .invalidNumber rest) else afterWhole negative 0 0 rest
      else if isDigit b then
        let (significand, _, rest) := takeDigits (digit b) 1 rest
        afterWhole negative significand (rest.takeWhile isDigit).length (rest.dropWhile isDigit)
      else .error (.here .invalidNumber rest)

/-! ## Strings -/

/-- The value of a hexadecimal digit. -/
def hexDigit? (b : UInt8) : Option Nat :=
  if isDigit b then some (digit b)
  else if 97 ≤ b ∧ b ≤ 102 then some (b.toNat - 87)
  else if 65 ≤ b ∧ b ≤ 70 then some (b.toNat - 55)
  else none

/-- Reads the four digits of an escape. -/
def hexEscape : Reader Nat
  | a :: b :: c :: d :: rest =>
      match hexDigit? a, hexDigit? b, hexDigit? c, hexDigit? d with
      | some a, some b, some c, some d => .ok (((a * 16 + b) * 16 + c) * 16 + d, rest)
      | _, _, _, _ => .error (.here .invalidEscape rest)
  | _ => .error (.here .endInString [])

/-- Reads one byte that has to be the given one. -/
def surrogateMark (mark : UInt8) : Reader Unit
  | [] => .error (.here .endInString [])
  | b :: rest => if b = mark then .ok ((), rest) else .error (.here .unfinishedSurrogates rest)

/-- Reads an escape by code after its `u`: one unit, or two that make up a character beyond the
first plane. -/
def unicodeEscape : Reader Char := fun input => do
  let (n, input) ← hexEscape input
  if 0xDC00 ≤ n ∧ n ≤ 0xDFFF then .error (.here .loneSurrogate input)
  else if 0xD800 ≤ n ∧ n ≤ 0xDBFF then
    let ((), input) ← surrogateMark (byte '\\') input
    let ((), input) ← surrogateMark (byte 'u') input
    let (m, input) ← hexEscape input
    if 0xDC00 ≤ m ∧ m ≤ 0xDFFF then
      .ok (Char.ofNat (0x10000 + (n - 0xD800) * 1024 + (m - 0xDC00)), input)
    else .error (.here .loneSurrogate input)
  else .ok (Char.ofNat n, input)

/-- Reads an escape after its backslash. -/
def escape : Reader Char
  | [] => .error (.here .endInString [])
  | b :: rest =>
      if b = byte '"' then .ok ('"', rest)
      else if b = byte '\\' then .ok ('\\', rest)
      else if b = byte '/' then .ok ('/', rest)
      else if b = byte 'b' then .ok (Char.ofNat 8, rest)
      else if b = byte 'f' then .ok (Char.ofNat 12, rest)
      else if b = byte 'n' then .ok ('\n', rest)
      else if b = byte 'r' then .ok ('\r', rest)
      else if b = byte 't' then .ok ('\t', rest)
      else if b = byte 'u' then unicodeEscape rest
      else .error (.here .invalidEscape rest)

/-- Reads the bytes of a string after its opening quote, with escapes replaced. Each step takes at
least one byte, so the length of the input is enough for `fuel`. -/
def stringBytes : Nat → Reader (List UInt8)
  | _, [] => .error (.here .endInString [])
  | 0, input => .error (.here .endInString input)
  | fuel + 1, b :: rest =>
      if b = byte '"' then .ok ([], rest)
      else if b = byte '\\' then do
        let (c, rest) ← escape rest
        let (bytes, rest) ← stringBytes fuel rest
        .ok (String.utf8EncodeChar c ++ bytes, rest)
      else if b < 32 then .error (.here .controlCharacter rest)
      else do
        let (bytes, rest) ← stringBytes fuel rest
        .ok (b :: bytes, rest)

/-- Reads a string after its opening quote. Bytes that are no UTF-8 are a fault placed as many bytes
before the closing quote as follow the well-formed ones. -/
def readString : Reader String := fun input => do
  let (bytes, rest) ← stringBytes input.length input
  match Text.Utf8.decode? bytes with
  | some text => .ok (String.ofList text, rest)
  | none => .error ⟨.invalidCodePoint, rest, bytes.length - Text.Utf8.validLength bytes⟩

/-! ## Containers -/

/-- Passes a comma, after which the container must not end. -/
def afterComma (close : UInt8) : Reader Unit := fun input =>
  match skipSpace input with
  | [] => .error (.next .endInValue [])
  | b :: rest => if b = close then .error (.next .trailingComma (b :: rest)) else .ok ((), b :: rest)

/-- Reads the items of a list up to its closing bracket. Each item takes at least one byte, so one
more than the length of the input is enough for `fuel`. -/
def readItems (item : Reader Json) : Nat → Bool → Reader (List Json)
  | 0, _, input => .error (.next .endInList input)
  | fuel + 1, first, input =>
      match skipSpace input with
      | [] => .error (.next .endInList [])
      | b :: rest =>
          if b = byte ']' then .ok ([], rest)
          else do
            let ((), input) ←
              if first then .ok ((), b :: rest)
              else if b = byte ',' then afterComma (byte ']') rest
              else .error (.next .expectedCommaOrBracket (b :: rest))
            let (x, input) ← item input
            let (xs, input) ← readItems item fuel false input
            .ok (x :: xs, input)

/-- Reads the key of a member and the colon after it. -/
def readKey : Reader String
  | [] => .error (.next .endInValue [])
  | b :: rest =>
      if b = byte '"' then do
        let (name, input) ← readString rest
        match skipSpace input with
        | [] => .error (.next .endInObject [])
        | b :: rest => if b = byte ':' then .ok (name, rest) else .error (.next .expectedColon (b :: rest))
      else .error (.next .keyNotString (b :: rest))

/-- Reads the members of an object up to its closing brace into a dictionary, so that the last
member of each name counts. -/
def readMembers (item : Reader Json) : Nat → Bool → Dict Json → Reader (Dict Json)
  | 0, _, _, input => .error (.next .endInObject input)
  | fuel + 1, first, known, input =>
      match skipSpace input with
      | [] => .error (.next .endInObject [])
      | b :: rest =>
          if b = byte '\x7d' then .ok (known, rest)
          else do
            let ((), input) ←
              if first then .ok ((), b :: rest)
              else if b = byte ',' then afterComma (byte '\x7d') rest
              else .error (.next .expectedCommaOrBrace (b :: rest))
            let (name, input) ← readKey input
            let (x, input) ← item input
            readMembers item fuel false (known.insert name x) input

/-- Reads a document whose containers nest less than `depth` deep. -/
def readValue : Nat → Reader Json
  | 0, input => .error (.next .tooDeep input)
  | depth + 1, input =>
      match skipSpace input with
      | [] => .error (.next .endInValue [])
      | b :: rest =>
          if b = byte 'n' then readWord .null [byte 'u', byte 'l', byte 'l'] rest
          else if b = byte 't' then readWord (.bool true) [byte 'r', byte 'u', byte 'e'] rest
          else if b = byte 'f' then readWord (.bool false) [byte 'a', byte 'l', byte 's', byte 'e'] rest
          else if b = byte '-' then (readNumber true rest).map fun (n, rest) => (.number n, rest)
          else if isDigit b then (readNumber false (b :: rest)).map fun (n, rest) => (.number n, rest)
          else if b = byte '"' then (readString rest).map fun (s, rest) => (.string s, rest)
          else if b = byte '[' then
            if depth = 0 then .error (.next .tooDeep (b :: rest))
            else (readItems (readValue depth) (rest.length + 1) true rest).map fun (xs, rest) => (.array xs, rest)
          else if b = byte '\x7b' then
            if depth = 0 then .error (.next .tooDeep (b :: rest))
            else (readMembers (readValue depth) (rest.length + 1) true [] rest).map
              fun (ms, rest) => (.object ms, rest)
          else .error (.next .expectedValue (b :: rest))

/-- Reads a whole document. -/
def decode (input : List UInt8) : Except Fault Json := do
  let (json, rest) ← readValue 128 input
  match skipSpace rest with
  | [] => .ok json
  | b :: rest => .error (.next .trailingCharacters (b :: rest))

end CallScript.Json
