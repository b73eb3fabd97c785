/-!
# UTF-8

Bytes are read by an automaton: between two characters, or inside one with the number of bytes
still to come and the interval in which the next of them has to lie. A byte outside the interval
ends the sequence as malformed and is read again from the start. So each malformed piece is as long
as it can be while it still begins some character, and counts as one.
-/

namespace CallScript.Text.Utf8

/-- Where the reader stands. -/
inductive State where
  /-- between two characters -/
  | start
  /-- inside a character: `more + 1` bytes are to come, the next from `low` to `high`, and the bits
  read so far make `value` -/
  | inside (more : Nat) (low high : Nat) (value : Nat)
  deriving Repr, DecidableEq

/-- What the first byte of a sequence announces; `none` if no character begins with it. -/
def State.lead? (b : Nat) : Option State :=
  if 0xC2 ≤ b ∧ b ≤ 0xDF then some (.inside 0 0x80 0xBF (b - 0xC0))
  else if b = 0xE0 then some (.inside 1 0xA0 0xBF 0)
  else if b = 0xED then some (.inside 1 0x80 0x9F 0xD)
  else if 0xE1 ≤ b ∧ b ≤ 0xEF then some (.inside 1 0x80 0xBF (b - 0xE0))
  else if b = 0xF0 then some (.inside 2 0x90 0xBF 0)
  else if 0xF1 ≤ b ∧ b ≤ 0xF3 then some (.inside 2 0x80 0xBF (b - 0xF0))
  else if b = 0xF4 then some (.inside 2 0x80 0x8F 4)
  else none

/-- Reads a byte between two characters: what is complete with it (`none` for a malformed piece)
and the next state. -/
def State.begin (b : Nat) : List (Option Char) × State :=
  if b < 0x80 then ([some (Char.ofNat b)], .start)
  else match State.lead? b with
    | some s => ([], s)
    | none => ([none], .start)

/-- Reads one byte. -/
def State.step : State → Nat → List (Option Char) × State
  | .start, b => State.begin b
  | .inside more low high value, b =>
      if low ≤ b ∧ b ≤ high then
        match more with
        | 0 => ([some (Char.ofNat (value * 64 + (b - 0x80)))], .start)
        | more + 1 => ([], .inside more 0x80 0xBF (value * 64 + (b - 0x80)))
      else
        let (pieces, s) := State.begin b
        (none :: pieces, s)

/-- Reads bytes from a state; a sequence cut off by the end is one malformed piece. -/
def scanFrom : State → List UInt8 → List (Option Char)
  | .start, [] => []
  | .inside .., [] => [none]
  | s, b :: rest =>
      let (pieces, next) := s.step b.toNat
      pieces ++ scanFrom next rest

/-- The characters of a byte string, with `none` for each malformed piece. -/
def scan (bytes : List UInt8) : List (Option Char) :=
  scanFrom .start bytes

/-- The text of well-formed bytes, `none` if a piece is malformed. -/
def decode? (bytes : List UInt8) : Option (List Char) :=
  (scan bytes).mapM id

/-- The text of any bytes, with the replacement character for each malformed piece. -/
def decodeLossy (bytes : List UInt8) : List Char :=
  (scan bytes).map (·.getD '\uFFFD')

/-- The bytes of a text. -/
def encode (text : List Char) : List UInt8 :=
  text.flatMap String.utf8EncodeChar

/-- The number of bytes before the first malformed piece. -/
def validLength (bytes : List UInt8) : Nat :=
  (encode ((scan bytes).takeWhile Option.isSome |>.filterMap id)).length

/-- The bytes of two texts in a row are the bytes of the one followed by those of the other. -/
@[simp] theorem encode_append (s t : List Char) : encode (s ++ t) = encode s ++ encode t := by
  simp [encode]

end CallScript.Text.Utf8
