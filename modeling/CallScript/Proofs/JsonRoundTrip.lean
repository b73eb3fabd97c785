import CallScript.Program
import CallScript.Proofs.JsonLiterals
import CallScript.Proofs.JsonNormalForm

/-!
# Written documents are read back

A document without fractions is read back from its text, on one line or over several, as long as
its containers do not nest deeper than the reader goes. The reader works on bytes, so every part of
the text is followed from its characters to its bytes: strings through their escapes, numbers
through their digits, and containers through the blanks around their parts. What the output of a
program says as JSON can therefore be decoded to the value it was printed from.
-/

namespace CallScript

/-- The byte of a character of one byte. -/
theorem Text.Utf8.encode_cons_of_ascii {c : Char} (h : c.toNat ≤ 0x7f) (text : List Char) :
    encode (c :: text) = Json.byte c :: encode text := by
  have hbytes : String.utf8EncodeChar c = [Json.byte c] := by
    have hval : c.val.toNat = c.toNat := rfl
    simp only [String.utf8EncodeChar, hval, if_pos h]
    rfl
  rw [encode, List.flatMap_cons, hbytes, List.singleton_append, encode]

/-- The bytes of a text are decoded to the text. -/
theorem Text.Utf8.decode?_encode (text : List Char) : decode? (encode text) = some text := by
  rw [decode?, scan_encode]
  induction text with
  | nil => rfl
  | cons c text ih => simp [ih]

namespace Json

/-! ## Strings -/

/-- Enough fuel reads the bytes of a string up to its closing quote. -/
def ReadsBytes (input bytes rest : List UInt8) : Prop :=
  ∀ fuel, input.length ≤ fuel → stringBytes fuel input = .ok (bytes, rest)

/-- The closing quote ends a string. -/
theorem readsBytes_quote (rest : List UInt8) : ReadsBytes (byte '"' :: rest) [] rest := by
  intro fuel hfuel
  obtain ⟨fuel, rfl⟩ : ∃ k, fuel = k + 1 := Nat.exists_eq_succ_of_ne_zero (by simp at hfuel; omega)
  rfl

namespace ReadsBytes

variable {input bytes rest : List UInt8}

/-- Bytes that are no quotes, backslashes or controls stand for themselves. -/
theorem append (h : ReadsBytes input bytes rest) {plain : List UInt8}
    (hplain : ∀ b ∈ plain, b ≠ byte '"' ∧ b ≠ byte '\\' ∧ 32 ≤ b.toNat) :
    ReadsBytes (plain ++ input) (plain ++ bytes) rest := by
  induction plain with
  | nil => exact h
  | cons b plain ih =>
    obtain ⟨⟨hquote, hbackslash, hlow⟩, hplain⟩ := List.forall_mem_cons.mp hplain
    intro fuel hfuel
    obtain ⟨fuel, rfl⟩ : ∃ k, fuel = k + 1 :=
      Nat.exists_eq_succ_of_ne_zero (by simp at hfuel; omega)
    have hbelow : ¬ b < 32 := by
      rw [UInt8.lt_iff_toNat_lt]
      exact Nat.not_lt.mpr hlow
    have hrest := ih hplain fuel (by simpa using hfuel)
    rw [List.cons_append, stringBytes, if_neg hquote, if_neg hbackslash, if_neg hbelow, hrest]
    rfl

/-- An escape stands for its character. -/
theorem escape (h : ReadsBytes input bytes rest) (code : List UInt8) {c : Char}
    (hescape : Json.escape (code ++ input) = .ok (c, input)) :
    ReadsBytes (byte '\\' :: (code ++ input)) (String.utf8EncodeChar c ++ bytes) rest := by
  intro fuel hfuel
  obtain ⟨fuel, rfl⟩ : ∃ k, fuel = k + 1 :=
    Nat.exists_eq_succ_of_ne_zero (by simp at hfuel; omega)
  have hrest := h fuel (by simp at hfuel; omega)
  rw [stringBytes, if_neg (by decide), if_pos rfl, hescape]
  change (stringBytes fuel input >>= _) = _
  rw [hrest]
  rfl

end ReadsBytes

/-- A hexadecimal digit is read back. -/
theorem hexDigit?_digitChar {n : Nat} (h : n < 16) :
    hexDigit? (byte (Nat.digitChar n)) = some n := by
  revert n
  decide

/-- The digits of an escape are characters of one byte. -/
theorem digitChar_ascii {n : Nat} (h : n < 16) : (Nat.digitChar n).toNat ≤ 0x7f := by
  revert n
  decide

/-- A control is read back from its code. -/
theorem unicodeEscape_control {c : Char} (h : c.toNat < 32) (input : List UInt8) :
    unicodeEscape (byte '0' :: byte '0' :: byte (Nat.digitChar (c.toNat / 16)) ::
      byte (Nat.digitChar (c.toNat % 16)) :: input) = .ok (c, input) := by
  have hzero : hexDigit? (byte '0') = some 0 := rfl
  have hhigh : hexDigit? (byte (Nat.digitChar (c.toNat / 16))) = some (c.toNat / 16) :=
    hexDigit?_digitChar (by omega)
  have hlow : hexDigit? (byte (Nat.digitChar (c.toNat % 16))) = some (c.toNat % 16) :=
    hexDigit?_digitChar (by omega)
  have hcode : ((0 * 16 + 0) * 16 + c.toNat / 16) * 16 + c.toNat % 16 = c.toNat := by omega
  have hread : hexEscape (byte '0' :: byte '0' :: byte (Nat.digitChar (c.toNat / 16)) ::
      byte (Nat.digitChar (c.toNat % 16)) :: input) = .ok (c.toNat, input) := by
    simp only [hexEscape, hzero, hhigh, hlow, hcode]
  rw [unicodeEscape, hread]
  change (if 0xDC00 ≤ c.toNat ∧ c.toNat ≤ 0xDFFF then _ else _) = _
  rw [if_neg (by omega), if_neg (by omega), Char.ofNat_toNat]

/-- A character that is written as it is has no bytes that mean something else in a string. -/
theorem plain_utf8EncodeChar {c : Char} (hquote : c ≠ '"') (hbackslash : c ≠ '\\')
    (hlow : ¬ c.toNat < 32) :
    ∀ b ∈ String.utf8EncodeChar c, b ≠ byte '"' ∧ b ≠ byte '\\' ∧ 32 ≤ b.toNat := by
  by_cases hascii : c.toNat ≤ 0x7f
  · have hbyte : (UInt8.ofNat c.toNat).toNat = c.toNat := Text.Utf8.toNat_byte (by omega)
    have hbytes : String.utf8EncodeChar c = [UInt8.ofNat c.toNat] := by
      have hval : c.val.toNat = c.toNat := rfl
      simp only [String.utf8EncodeChar, hval, if_pos hascii]
    rw [hbytes]
    refine List.forall_mem_singleton.mpr ⟨?_, ?_, by omega⟩
    · exact mt (BraceMark.ofNat_eq_byte_iff hascii (by decide)).mp hquote
    · exact mt (BraceMark.ofNat_eq_byte_iff hascii (by decide)).mp hbackslash
  · obtain ⟨codes, hcodes, hbounds⟩ := Text.Utf8.exists_codes_utf8EncodeChar (Nat.not_le.mp hascii)
    rw [hcodes]
    intro b hb
    obtain ⟨n, hn, rfl⟩ := List.mem_map.mp hb
    obtain ⟨hbelow, habove⟩ := hbounds n hn
    have hbyte : (UInt8.ofNat n).toNat = n := Text.Utf8.toNat_byte habove
    have hne : ∀ d : Char, d.toNat ≤ 0x7f → UInt8.ofNat n ≠ byte d := by
      intro d hd heq
      have hnat := congrArg UInt8.toNat heq
      have hbyte' : (byte d).toNat = d.toNat := Text.Utf8.toNat_byte (n := d.toNat) (by omega)
      omega
    exact ⟨hne _ (by decide), hne _ (by decide), by omega⟩

/-- A character is read back as it is written in a string. -/
theorem readsBytes_escapeChar (c : Char) {input bytes rest : List UInt8}
    (h : ReadsBytes input bytes rest) :
    ReadsBytes (Text.Utf8.encode (escapeChar c) ++ input)
      (String.utf8EncodeChar c ++ bytes) rest := by
  unfold escapeChar
  split
  · next hc =>
    subst hc
    exact h.escape [byte '"'] rfl
  split
  · next hc =>
    subst hc
    exact h.escape [byte '\\'] rfl
  split
  · next hc =>
    subst hc
    exact h.escape [byte 'b'] rfl
  split
  · next hc =>
    subst hc
    exact h.escape [byte 'f'] rfl
  split
  · next hc =>
    subst hc
    exact h.escape [byte 'n'] rfl
  split
  · next hc =>
    subst hc
    exact h.escape [byte 'r'] rfl
  split
  · next hc =>
    subst hc
    exact h.escape [byte 't'] rfl
  split
  · next hlow =>
    have hhigh := digitChar_ascii (n := c.toNat / 16) (by omega)
    have hdigit := digitChar_ascii (n := c.toNat % 16) (by omega)
    have hcode : Text.Utf8.encode ['\\', 'u', '0', '0', Nat.digitChar (c.toNat / 16),
        Nat.digitChar (c.toNat % 16)] = [byte '\\', byte 'u', byte '0', byte '0',
          byte (Nat.digitChar (c.toNat / 16)), byte (Nat.digitChar (c.toNat % 16))] := by
      simp (disch := first | assumption | decide) only [Text.Utf8.encode_cons_of_ascii]
      rfl
    rw [hcode]
    exact h.escape [byte 'u', byte '0', byte '0', byte (Nat.digitChar (c.toNat / 16)),
      byte (Nat.digitChar (c.toNat % 16))] (unicodeEscape_control hlow input)
  · next hquote hbackslash _ _ _ _ _ hlow =>
    have hbytes : Text.Utf8.encode [c] = String.utf8EncodeChar c := by simp [Text.Utf8.encode]
    rw [hbytes]
    exact h.append (plain_utf8EncodeChar hquote hbackslash hlow)

/-- A string is read back as it is written. -/
theorem readString_stringText (s : String) (rest : List UInt8) :
    readString (Text.Utf8.encode (s.toList.flatMap escapeChar) ++ byte '"' :: rest) =
      .ok (s, rest) := by
  have hbytes : ∀ cs : List Char,
      ReadsBytes (Text.Utf8.encode (cs.flatMap escapeChar) ++ byte '"' :: rest)
        (Text.Utf8.encode cs) rest := by
    intro cs
    induction cs with
    | nil => exact readsBytes_quote rest
    | cons c cs ih =>
      have hcons : Text.Utf8.encode (c :: cs) = String.utf8EncodeChar c ++ Text.Utf8.encode cs := by
        simp [Text.Utf8.encode]
      rw [hcons, List.flatMap_cons, Text.Utf8.encode_append, List.append_assoc]
      exact readsBytes_escapeChar c ih
  rw [readString, hbytes s.toList _ (Nat.le_refl _)]
  simp only [bind, Except.bind, Text.Utf8.decode?_encode, String.ofList_toList]

/-! ## Numbers -/

/-- What may follow a number: a byte that cannot belong to it, or nothing. -/
def EndsNumber (rest : List UInt8) : Prop :=
  ∀ b ∈ rest.head?, isDigit b = false ∧ b ≠ byte '.' ∧ b ≠ byte 'e' ∧ b ≠ byte 'E'

theorem endsNumber_cons {b : UInt8}
    (h : isDigit b = false ∧ b ≠ byte '.' ∧ b ≠ byte 'e' ∧ b ≠ byte 'E') (rest : List UInt8) :
    EndsNumber (b :: rest) := by
  intro c hc
  exact Option.some.inj hc ▸ h

/-- A decimal digit as a byte. -/
theorem isDigit_byte {c : Char} (h : c.isDigit = true) :
    isDigit (byte c) = true ∧ digit (byte c) = c.toNat - 48 ∧ c.toNat ≤ 0x7f := by
  obtain ⟨hlow, hhigh⟩ := Lexeme.toNat_of_isDigit h
  have hbyte : (byte c).toNat = c.toNat := Text.Utf8.toNat_byte (n := c.toNat) (by omega)
  refine ⟨?_, ?_, by omega⟩
  · simp only [isDigit, Bool.and_eq_true, decide_eq_true_eq, UInt8.le_iff_toNat_le]
    exact ⟨hbyte ▸ hlow, hbyte ▸ hhigh⟩
  · rw [digit, hbyte]

/-- More digits do not make a number smaller. -/
theorem le_ofDigitChars (digits : List Char) (n : Nat) : n ≤ Nat.ofDigitChars 10 digits n := by
  induction digits generalizing n with
  | nil => exact Nat.le_refl n
  | cons c digits ih =>
    rw [Nat.ofDigitChars_cons]
    exact Nat.le_trans (by omega) (ih _)

/-- Digits are taken up to the end of the number as long as it fits. -/
theorem takeDigits_encode {digits : List Char} (hdigits : ∀ c ∈ digits, c.isDigit = true)
    {rest : List UInt8} (hrest : EndsNumber rest) (n count : Nat)
    (hfits : Nat.ofDigitChars 10 digits n < 0x10000000000000000) :
    takeDigits n count (Text.Utf8.encode digits ++ rest) =
      (Nat.ofDigitChars 10 digits n, count + digits.length, rest) := by
  induction digits generalizing n count with
  | nil =>
    cases rest with
    | nil => rfl
    | cons b rest =>
      have hb : isDigit b = false := (hrest b rfl).1
      change takeDigits n count (b :: rest) = (n, count, b :: rest)
      simp [takeDigits, hb]
  | cons c digits ih =>
    obtain ⟨hc, hdigits⟩ := List.forall_mem_cons.mp hdigits
    obtain ⟨hdigit, hvalue, hascii⟩ := isDigit_byte hc
    have hnext : n * 10 + digit (byte c) = 10 * n + (c.toNat - '0'.toNat) := by
      rw [hvalue, Nat.mul_comm n 10]
      rfl
    rw [Nat.ofDigitChars_cons] at hfits ⊢
    have hlt : n * 10 + digit (byte c) < 0x10000000000000000 := by
      rw [hnext]
      exact Nat.lt_of_le_of_lt (le_ofDigitChars digits _) hfits
    rw [Text.Utf8.encode_cons_of_ascii hascii, List.cons_append, takeDigits]
    simp only [hdigit, hlt, decide_true, Bool.and_self, if_true]
    rw [hnext, ih hdigits _ _ hfits, List.length_cons, Nat.add_assoc, Nat.add_comm 1]

/-- Only zero is written with a leading zero. -/
theorem natText_ne_zero_cons {n : Nat} (h : n ≠ 0) (digits : List Char) :
    Decimal.natText n ≠ '0' :: digits := by
  induction n using Nat.strongRecOn generalizing digits with
  | ind n ih =>
    intro heq
    rw [Decimal.natText, Nat.toDigits_eq_if (by decide)] at heq
    split at heq
    · next hlt =>
      have hdigit : ∀ k, k < 10 → k ≠ 0 → Nat.digitChar k ≠ '0' := by decide
      exact hdigit n hlt h (List.cons.inj heq).1
    · next hle =>
      -- the first digit is that of the number without its last one
      cases hfront : Nat.toDigits 10 (n / 10) with
      | nil => exact Nat.toDigits_ne_nil hfront
      | cons c front =>
        rw [hfront] at heq
        obtain rfl : c = '0' := (List.cons.inj heq).1
        exact ih (n / 10) (by omega) (by omega) front hfront

/-- The number ends where it is followed by something else. -/
theorem afterWhole_of_endsNumber (negative : Bool) (n : Nat) {rest : List UInt8}
    (h : EndsNumber rest) : afterWhole negative n 0 rest = wholeNumber negative n rest := by
  cases rest with
  | nil => rfl
  | cons b rest =>
    obtain ⟨-, hpoint, hlower, hupper⟩ := h b rfl
    simp [afterWhole, hpoint, hlower, hupper]

/-- No digits are left behind a number. -/
theorem dropWhile_isDigit_of_endsNumber {rest : List UInt8} (h : EndsNumber rest) :
    rest.takeWhile isDigit = [] ∧ rest.dropWhile isDigit = rest := by
  cases rest with
  | nil => exact ⟨rfl, rfl⟩
  | cons b rest =>
    have hb : isDigit b = false := (h b rfl).1
    simp [hb]

/-- A number is read up to its end. -/
theorem readNumber_natText (negative : Bool) {n : Nat} (hfits : n < 0x10000000000000000)
    {rest : List UInt8} (hrest : EndsNumber rest) :
    readNumber negative (Text.Utf8.encode (Decimal.natText n) ++ rest) =
      wholeNumber negative n rest := by
  by_cases hzero : n = 0
  · subst hzero
    rw [← afterWhole_of_endsNumber negative 0 hrest]
    change readNumber negative (byte '0' :: rest) = _
    cases rest with
    | nil => rfl
    | cons b rest =>
      have hb : isDigit b = false := (hrest b rfl).1
      simp [readNumber, hb]
  · have hvalue := Decimal.readNat_natText n
    have hall : ∀ c ∈ Decimal.natText n, c.isDigit = true :=
      fun c hc => Decimal.isDigit_of_mem_natText hc
    cases htext : Decimal.natText n with
    | nil => exact absurd htext (Decimal.natText_ne_nil n)
    | cons c digits =>
      rw [htext] at hvalue hall
      obtain ⟨hc, hdigits⟩ := List.forall_mem_cons.mp hall
      obtain ⟨hdigit, hcode, hascii⟩ := isDigit_byte hc
      have hne : byte c ≠ byte '0' := by
        intro heq
        obtain rfl : c = '0' := (BraceMark.ofNat_eq_byte_iff hascii (by decide)).mp heq
        exact natText_ne_zero_cons hzero digits htext
      have hread : Nat.ofDigitChars 10 digits (digit (byte c)) = n := by
        rw [Decimal.readNat, Nat.ofDigitChars_cons, Nat.mul_zero, Nat.zero_add] at hvalue
        rw [hcode]
        exact hvalue
      have htake := takeDigits_encode hdigits hrest (digit (byte c)) 1 (hread ▸ hfits)
      rw [hread] at htake
      rw [Text.Utf8.encode_cons_of_ascii hascii, List.cons_append, readNumber.eq_def]
      dsimp only
      rw [if_neg hne, if_pos hdigit, htake]
      change afterWhole negative n (rest.takeWhile isDigit).length (rest.dropWhile isDigit) = _
      rw [(dropWhile_isDigit_of_endsNumber hrest).1, (dropWhile_isDigit_of_endsNumber hrest).2]
      exact afterWhole_of_endsNumber negative n hrest

/-! ## Parts of a document -/

/-- The reader takes the bytes, behind which no number goes on, for the document. They begin with
neither a blank nor a closing bracket. -/
structure ReadsAs (item : Reader Json) (input : List UInt8) (doc : Json) : Prop where
  begins : ∃ b tail, input = b :: tail ∧ isSpace b = false ∧ b ≠ byte ']'
  reads : ∀ rest, EndsNumber rest → item (input ++ rest) = .ok (doc, rest)

/-- A digit begins a number. -/
theorem readValue_of_isDigit (depth : Nat) {b : UInt8} (h : isDigit b = true) (rest : List UInt8) :
    isSpace b = false ∧ b ≠ byte ']' ∧ readValue (depth + 1) (b :: rest) =
      (readNumber false (b :: rest)).map fun (n, rest) => (.number n, rest) := by
  have hne : ∀ d : UInt8, isDigit d = false → b ≠ d := by
    intro d hd heq
    rw [heq, hd] at h
    cases h
  have hspace : isSpace b = false := by
    simp [isSpace, hne 32 rfl, hne 9 rfl, hne 10 rfl, hne 13 rfl]
  have hskip : skipSpace (b :: rest) = b :: rest := by
    rw [skipSpace, List.dropWhile_cons_of_neg (by simp [hspace])]
  refine ⟨hspace, hne _ rfl, ?_⟩
  rw [readValue, hskip]
  dsimp only
  rw [if_neg (hne _ rfl), if_neg (hne _ rfl), if_neg (hne _ rfl), if_neg (hne _ rfl), if_pos h]

/-- Whole numbers are read back. -/
theorem readsAs_intText (depth : Nat) {n : Int}
    (fits : -0x8000000000000000 ≤ n ∧ n < 0x10000000000000000) :
    ReadsAs (readValue (depth + 1)) (Text.Utf8.encode (Decimal.intText n))
      (.number (.whole n fits)) := by
  by_cases hsign : n < 0
  · rw [Decimal.intText, if_pos hsign, Text.Utf8.encode_cons_of_ascii (by decide)]
    refine ⟨⟨_, _, rfl, rfl, by decide⟩, ?_⟩
    intro rest hrest
    have hnumber : wholeNumber true n.natAbs rest = .ok (.whole n fits, rest) := by
      have hvalue : -(n.natAbs : Int) = n := by omega
      rw [wholeNumber, if_pos rfl, dif_pos (by omega)]
      simp only [hvalue]
    have hfits : n.natAbs < 0x10000000000000000 := by omega
    change (readNumber true (Text.Utf8.encode (Decimal.natText n.natAbs) ++ rest)).map _ = _
    rw [readNumber_natText true hfits hrest, hnumber]
    rfl
  · rw [Decimal.intText, if_neg hsign]
    have hfits : n.natAbs < 0x10000000000000000 := by omega
    cases htext : Decimal.natText n.natAbs with
    | nil => exact absurd htext (Decimal.natText_ne_nil n.natAbs)
    | cons c digits =>
      have hc : c.isDigit = true := Decimal.isDigit_of_mem_natText (htext ▸ List.mem_cons_self)
      obtain ⟨hdigit, -, hascii⟩ := isDigit_byte hc
      have hencode := Text.Utf8.encode_cons_of_ascii hascii digits
      obtain ⟨hspace, hbracket, -⟩ := readValue_of_isDigit depth hdigit []
      refine ⟨⟨_, _, hencode, hspace, hbracket⟩, ?_⟩
      intro rest hrest
      have hnumber : wholeNumber false n.natAbs rest = .ok (.whole n fits, rest) := by
        have hvalue : (n.natAbs : Int) = n := by omega
        rw [wholeNumber, if_neg (by decide), dif_pos hfits]
        simp only [hvalue]
      have hread := readNumber_natText false hfits hrest
      rw [htext, hencode, List.cons_append, hnumber] at hread
      rw [hencode, List.cons_append, (readValue_of_isDigit depth hdigit _).2.2, hread]
      rfl

/-- Strings are read back. -/
theorem readsAs_stringText (depth : Nat) (s : String) :
    ReadsAs (readValue (depth + 1)) (Text.Utf8.encode (stringText s)) (.string s) := by
  have hencode : Text.Utf8.encode (stringText s) =
      byte '"' :: (Text.Utf8.encode (s.toList.flatMap escapeChar) ++ [byte '"']) := by
    rw [stringText, Text.Utf8.encode_cons_of_ascii (by decide), Text.Utf8.encode_append]
    rfl
  rw [hencode]
  refine ⟨⟨_, _, rfl, rfl, by decide⟩, ?_⟩
  intro rest _
  change (readString ((Text.Utf8.encode (s.toList.flatMap escapeChar) ++ [byte '"']) ++ rest)).map _
    = _
  rw [List.append_assoc, List.singleton_append, readString_stringText]
  rfl

/-! ## Containers -/

variable {item : Reader Json} {layout : Layout}

/-- The blanks between the parts of a container are passed over. -/
theorem skipSpace_break (layout : Layout) {b : UInt8} (hb : isSpace b = false) (rest : List UInt8) :
    skipSpace (Text.Utf8.encode layout.break ++ b :: rest) = b :: rest := by
  have hblank : ∀ text : List Char, (∀ c ∈ text, c = '\n' ∨ c = ' ') →
      skipSpace (Text.Utf8.encode text ++ b :: rest) = b :: rest := by
    intro text htext
    induction text with
    | nil => exact List.dropWhile_cons_of_neg (by simp [hb])
    | cons c text ih =>
      obtain ⟨hc, hrest⟩ := List.forall_mem_cons.mp htext
      rcases hc with rfl | rfl
      · exact ih hrest
      · exact ih hrest
  cases layout with
  | none => exact hblank [] (by simp)
  | some level =>
    refine hblank _ (List.forall_mem_cons.mpr ⟨.inl rfl, ?_⟩)
    intro c hc
    exact .inr (List.eq_of_mem_replicate hc)

/-- No number goes on behind the last part of a container. -/
theorem endsNumber_break {input : List UInt8} (h : EndsNumber input) :
    EndsNumber (Text.Utf8.encode layout.break ++ input) := by
  cases layout with
  | none => exact h
  | some level => exact endsNumber_cons (b := byte '\n') (by decide) _

/-- A comma and the blanks behind it are passed before a part that does not close the container. -/
theorem afterComma_break {close b : UInt8} (hspace : isSpace b = false) (hclose : b ≠ close)
    (rest : List UInt8) :
    afterComma close (Text.Utf8.encode layout.break ++ b :: rest) = .ok ((), b :: rest) := by
  rw [afterComma, skipSpace_break layout hspace]
  exact if_neg hclose

/-- What is written behind an item of a list. -/
theorem encode_itemsText_nil :
    Text.Utf8.encode (itemsText layout []) = Text.Utf8.encode layout.break ++ [byte ']'] := by
  rw [itemsText, Text.Utf8.encode_append]
  rfl

/-- What is written behind an item of a list before another. -/
theorem encode_itemsText_cons (x : Json) (xs : List Json) :
    Text.Utf8.encode (itemsText layout (x :: xs)) = byte ',' ::
      (Text.Utf8.encode layout.inner.break ++ (Text.Utf8.encode (text layout.inner x) ++
        Text.Utf8.encode (itemsText layout xs))) := by
  rw [itemsText, Text.Utf8.encode_cons_of_ascii (by decide), Text.Utf8.encode_append,
    Text.Utf8.encode_append, List.append_assoc]

/-- No number goes on behind an item of a list. -/
theorem endsNumber_itemsText (layout : Layout) (xs : List Json) (rest : List UInt8) :
    EndsNumber (Text.Utf8.encode (itemsText layout xs) ++ rest) := by
  cases xs with
  | nil =>
    rw [encode_itemsText_nil, List.append_assoc]
    exact endsNumber_break (endsNumber_cons (by decide) rest)
  | cons x xs =>
    rw [encode_itemsText_cons]
    exact endsNumber_cons (by decide) _

/-- Items that are read back one by one are read back behind an item, up to the bracket. -/
theorem readItems_itemsText {xs : List Json}
    (hitems : ∀ x ∈ xs, ReadsAs item (Text.Utf8.encode (text layout.inner x)) x)
    (rest : List UInt8) (fuel : Nat)
    (hfuel : (Text.Utf8.encode (itemsText layout xs) ++ rest).length < fuel) :
    readItems item fuel false (Text.Utf8.encode (itemsText layout xs) ++ rest) =
      .ok (xs, rest) := by
  induction xs generalizing fuel with
  | nil =>
    obtain ⟨fuel, rfl⟩ : ∃ k, fuel = k + 1 := Nat.exists_eq_succ_of_ne_zero (by omega)
    rw [encode_itemsText_nil, List.append_assoc, readItems, List.singleton_append,
      skipSpace_break layout rfl]
    rfl
  | cons x xs ih =>
    obtain ⟨fuel, rfl⟩ : ∃ k, fuel = k + 1 := Nat.exists_eq_succ_of_ne_zero (by omega)
    obtain ⟨hx, hxs⟩ := List.forall_mem_cons.mp hitems
    obtain ⟨b, tail, hbegin, hspace, hbracket⟩ := hx.begins
    have hitem := hx.reads _ (endsNumber_itemsText layout xs rest)
    have hrest := ih hxs fuel (by
      simp only [encode_itemsText_cons, List.length_append, List.length_cons] at hfuel ⊢
      omega)
    rw [encode_itemsText_cons, hbegin]
    simp only [List.cons_append, List.append_assoc]
    rw [hbegin, List.cons_append] at hitem
    -- the comma is passed, then the item is read, then the others
    rw [readItems]
    change (afterComma (byte ']') _ >>= _) = _
    rw [afterComma_break hspace hbracket]
    change (item (b :: (tail ++ _)) >>= _) = _
    rw [hitem]
    change (readItems item fuel false _ >>= _) = _
    rw [hrest]
    rfl

/-- A list is read back if its items are, one level less deep. -/
theorem readsAs_array {depth : Nat} {xs : List Json}
    (hitems : ∀ x ∈ xs,
      ReadsAs (readValue (depth + 1)) (Text.Utf8.encode (text layout.inner x)) x) :
    ReadsAs (readValue (depth + 2)) (Text.Utf8.encode (text layout (.array xs))) (.array xs) := by
  cases xs with
  | nil => exact ⟨⟨_, _, rfl, rfl, by decide⟩, fun rest _ => rfl⟩
  | cons x xs =>
    obtain ⟨hx, hxs⟩ := List.forall_mem_cons.mp hitems
    obtain ⟨b, tail, hbegin, hspace, hbracket⟩ := hx.begins
    have hencode : Text.Utf8.encode (text layout (.array (x :: xs))) = byte '[' ::
        (Text.Utf8.encode layout.inner.break ++ b :: (tail ++
          Text.Utf8.encode (itemsText layout xs))) := by
      rw [text, Text.Utf8.encode_cons_of_ascii (by decide), Text.Utf8.encode_append,
        Text.Utf8.encode_append, List.append_assoc, hbegin, List.cons_append]
    rw [hencode]
    refine ⟨⟨_, _, rfl, rfl, by decide⟩, ?_⟩
    intro rest _
    have hitem := hx.reads _ (endsNumber_itemsText layout xs rest)
    rw [hbegin, List.cons_append] at hitem
    simp only [List.cons_append, List.append_assoc]
    change (readItems (readValue (depth + 1)) _ true _).map _ = _
    rw [readItems, skipSpace_break _ hspace]
    dsimp only
    rw [if_neg hbracket, if_pos rfl]
    change ((readValue (depth + 1) (b :: (tail ++ _)) >>= _) : Except Fault _).map _ = _
    rw [hitem]
    change ((readItems _ _ false _ >>= _) : Except Fault _).map _ = _
    rw [readItems_itemsText hxs rest _ (by simp; omega)]
    rfl

/-- What is written behind a member of an object. -/
theorem encode_membersText_nil :
    Text.Utf8.encode (membersText layout []) = Text.Utf8.encode layout.break ++ [byte '\x7d'] := by
  rw [membersText, Text.Utf8.encode_append]
  rfl

/-- A key with its colon, followed by some bytes. -/
def keyBytes (layout : Layout) (name : String) (input : List UInt8) : List UInt8 :=
  byte '"' :: (Text.Utf8.encode (name.toList.flatMap escapeChar) ++ byte '"' :: byte ':' ::
    (Text.Utf8.encode layout.colon.tail ++ input))

/-- The bytes of a key and its colon. -/
theorem encode_key (layout : Layout) (name : String) (input : List UInt8) :
    Text.Utf8.encode (stringText name) ++ (Text.Utf8.encode layout.colon ++ input) =
      keyBytes layout name input := by
  have hcolon : Text.Utf8.encode layout.colon = byte ':' :: Text.Utf8.encode layout.colon.tail := by
    cases layout <;> rfl
  rw [hcolon, stringText, Text.Utf8.encode_cons_of_ascii (by decide), Text.Utf8.encode_append]
  simp only [List.cons_append, List.append_assoc]
  rfl

/-- A key is read back as it is written. -/
theorem readKey_keyBytes (layout : Layout) (name : String) (input : List UInt8) :
    readKey (keyBytes layout name input) =
      .ok (name, Text.Utf8.encode layout.colon.tail ++ input) := by
  rw [keyBytes, readKey, if_pos rfl, readString_stringText]
  rfl

/-- What is written behind a member of an object before another. -/
theorem encode_membersText_cons (name : String) (x : Json) (ms : List (String × Json)) :
    Text.Utf8.encode (membersText layout ((name, x) :: ms)) = byte ',' ::
      (Text.Utf8.encode layout.inner.break ++ keyBytes layout name
        (Text.Utf8.encode (text layout.inner x) ++ Text.Utf8.encode (membersText layout ms))) := by
  rw [membersText, Text.Utf8.encode_cons_of_ascii (by decide), ← encode_key]
  simp only [Text.Utf8.encode_append, List.append_assoc]

theorem keyBytes_append (layout : Layout) (name : String) (input rest : List UInt8) :
    keyBytes layout name input ++ rest = keyBytes layout name (input ++ rest) := by
  simp only [keyBytes, List.cons_append, List.append_assoc]

/-- A document may stand behind the blank after a colon. -/
theorem readValue_colon (layout : Layout) (depth : Nat) (input : List UInt8) :
    readValue (depth + 1) (Text.Utf8.encode layout.colon.tail ++ input) =
      readValue (depth + 1) input := by
  cases layout with
  | none => rfl
  | some level => rfl

/-- No number goes on behind a member of an object. -/
theorem endsNumber_membersText (layout : Layout) (ms : List (String × Json)) (rest : List UInt8) :
    EndsNumber (Text.Utf8.encode (membersText layout ms) ++ rest) := by
  cases ms with
  | nil =>
    rw [encode_membersText_nil, List.append_assoc]
    exact endsNumber_break (endsNumber_cons (by decide) rest)
  | cons m ms =>
    rw [encode_membersText_cons]
    exact endsNumber_cons (by decide) _

/-- Members that are read back one by one are read back behind a member, up to the brace. -/
theorem readMembers_membersText {depth : Nat} {ms known : List (String × Json)}
    (hitems : ∀ m ∈ ms,
      ReadsAs (readValue (depth + 1)) (Text.Utf8.encode (text layout.inner m.2)) m.2)
    (hsorted : Dict.Sorted (known ++ ms)) (rest : List UInt8) (fuel : Nat)
    (hfuel : (Text.Utf8.encode (membersText layout ms) ++ rest).length < fuel) :
    readMembers (readValue (depth + 1)) fuel false known
      (Text.Utf8.encode (membersText layout ms) ++ rest) = .ok (known ++ ms, rest) := by
  induction ms generalizing known fuel with
  | nil =>
    obtain ⟨fuel, rfl⟩ : ∃ k, fuel = k + 1 := Nat.exists_eq_succ_of_ne_zero (by omega)
    rw [encode_membersText_nil, List.append_assoc, readMembers, List.singleton_append,
      skipSpace_break layout rfl, List.append_nil]
    rfl
  | cons m ms ih =>
    obtain ⟨name, x⟩ := m
    obtain ⟨fuel, rfl⟩ : ∃ k, fuel = k + 1 := Nat.exists_eq_succ_of_ne_zero (by omega)
    obtain ⟨hx, hms⟩ := List.forall_mem_cons.mp hitems
    have hbefore : ∀ e ∈ known, e.1 < name := by
      intro e he
      exact (List.pairwise_append.mp hsorted).2.2 e he (name, x) List.mem_cons_self
    have hitem := hx.reads _ (endsNumber_membersText layout ms rest)
    rw [List.append_cons] at hsorted
    have hrest := ih hms hsorted fuel (by
      simp only [encode_membersText_cons, keyBytes, List.length_append, List.length_cons] at hfuel ⊢
      omega)
    rw [encode_membersText_cons, List.cons_append, List.append_assoc, keyBytes_append,
      List.append_assoc, readMembers]
    -- the comma is passed, then the key is read, then its value
    change (afterComma (byte '\x7d') (_ ++ byte '"' :: _) >>= _) = _
    rw [afterComma_break rfl (by decide)]
    change (readKey (keyBytes layout name _) >>= _) = _
    rw [readKey_keyBytes]
    change (readValue (depth + 1) (Text.Utf8.encode layout.colon.tail ++ _) >>= _) = _
    rw [readValue_colon, hitem]
    -- the key is greater than all known ones, so its member comes last
    change readMembers _ fuel false (Dict.insert known name x) _ = _
    rw [Dict.insert_eq_append hbefore, hrest, ← List.append_cons]

/-- An object is read back if its members are, one level less deep, and come sorted. -/
theorem readsAs_object {depth : Nat} {ms : List (String × Json)}
    (hitems : ∀ m ∈ ms,
      ReadsAs (readValue (depth + 1)) (Text.Utf8.encode (text layout.inner m.2)) m.2)
    (hsorted : Dict.Sorted ms) :
    ReadsAs (readValue (depth + 2)) (Text.Utf8.encode (text layout (.object ms))) (.object ms) := by
  cases ms with
  | nil => exact ⟨⟨_, _, rfl, rfl, by decide⟩, fun rest _ => rfl⟩
  | cons m ms =>
    obtain ⟨name, x⟩ := m
    obtain ⟨hx, hms⟩ := List.forall_mem_cons.mp hitems
    have hencode : Text.Utf8.encode (text layout (.object ((name, x) :: ms))) = byte '\x7b' ::
        (Text.Utf8.encode layout.inner.break ++ keyBytes layout name
          (Text.Utf8.encode (text layout.inner x) ++
            Text.Utf8.encode (membersText layout ms))) := by
      rw [text, Text.Utf8.encode_cons_of_ascii (by decide), ← encode_key]
      simp only [Text.Utf8.encode_append, List.append_assoc]
    rw [hencode]
    refine ⟨⟨_, _, rfl, rfl, by decide⟩, ?_⟩
    intro rest _
    have hitem := hx.reads _ (endsNumber_membersText layout ms rest)
    rw [List.cons_append, List.append_assoc, keyBytes_append, List.append_assoc]
    change (readMembers (readValue (depth + 1)) _ true [] (_ ++ byte '"' :: _)).map _ = _
    rw [readMembers, skipSpace_break _ rfl]
    dsimp only
    rw [if_neg (by decide), if_pos rfl]
    change ((readKey (keyBytes layout name _) >>= _) : Except Fault _).map _ = _
    rw [readKey_keyBytes]
    change ((readValue (depth + 1) (Text.Utf8.encode layout.colon.tail ++ _) >>= _) :
      Except Fault _).map _ = _
    rw [readValue_colon, hitem]
    change (readMembers _ _ false [(name, x)] _).map _ = _
    rw [readMembers_membersText hms hsorted rest _ (by simp [keyBytes]; omega)]
    rfl

/-! ## Documents -/

/-- Documents without fractions whose containers nest at most so deep. The members of an object come
sorted by key. -/
inductive IsExact : Nat → Json → Prop where
  | null (levels : Nat) : IsExact levels .null
  | whole (levels : Nat) {n : Int} (fits : -0x8000000000000000 ≤ n ∧ n < 0x10000000000000000) :
      IsExact levels (.number (.whole n fits))
  | string (levels : Nat) (s : String) : IsExact levels (.string s)
  | array {levels : Nat} {items : List Json} (parts : ∀ x ∈ items, IsExact levels x) :
      IsExact (levels + 1) (.array items)
  | object {levels : Nat} {members : List (String × Json)} (sorted : Dict.Sorted members)
      (parts : ∀ m ∈ members, IsExact levels m.2) : IsExact (levels + 1) (.object members)

/-- A document is read back by a reader that goes as deep as it. -/
theorem IsExact.readsAs {levels : Nat} {doc : Json} (h : IsExact levels doc) (layout : Layout) :
    ReadsAs (readValue (levels + 1)) (Text.Utf8.encode (text layout doc)) doc := by
  induction h generalizing layout with
  | null levels => exact ⟨⟨_, _, rfl, rfl, by decide⟩, fun rest _ => rfl⟩
  | whole levels fits => exact readsAs_intText levels fits
  | string levels s => exact readsAs_stringText levels s
  | array _ ih => exact readsAs_array fun x hx => ih x hx layout.inner
  | object hsorted _ ih => exact readsAs_object (fun m hm => ih m hm layout.inner) hsorted

/-- A document that nests no deeper than the reader goes is decoded from its text. -/
theorem IsExact.decode_text {doc : Json} (h : IsExact 127 doc) (layout : Layout) :
    decode (Text.Utf8.encode (text layout doc)) = .ok doc := by
  have hread := (h.readsAs layout).reads [] nofun
  rw [List.append_nil] at hread
  rw [decode, hread]
  rfl

end Json

/-! ## Values -/

namespace Value

/-- Values built of absent values, integers, strings, lists and maps, with lists and maps nested at
most so deep. The entries of a map come sorted by key. -/
inductive IsPrintable : Nat → Value → Prop where
  | nil (levels : Nat) : IsPrintable levels .nil
  | int (levels : Nat) (n : Int64) : IsPrintable levels (.int n)
  | string (levels : Nat) (s : String) : IsPrintable levels (.string s)
  | list {levels : Nat} {items : List Value} (parts : ∀ v ∈ items, IsPrintable levels v) :
      IsPrintable (levels + 1) (.list items)
  | map {levels : Nat} {entries : List (String × Value)} (sorted : Dict.Sorted entries)
      (parts : ∀ e ∈ entries, IsPrintable levels e.2) : IsPrintable (levels + 1) (.map entries)

/-- The document of a value nests as deep as the value. -/
theorem IsPrintable.isExact {levels : Nat} {v : Value} (h : v.IsPrintable levels) :
    v.toJson.IsExact levels := by
  induction h with
  | nil levels => exact .null levels
  | int levels n => exact .whole levels _
  | string levels s => exact .string levels s
  | list _ ih =>
    rw [toJson, itemsToJson_eq_map]
    exact .array (List.forall_mem_map.mpr ih)
  | map hsorted _ ih =>
    rw [toJson, entriesToJson_eq_map]
    exact .object (List.pairwise_map.mpr hsorted) (List.forall_mem_map.mpr ih)

theorem IsPrintable.isDecoded {levels : Nat} {v : Value} (h : v.IsPrintable levels) :
    v.IsDecoded := by
  induction h with
  | nil levels => exact .nil
  | int levels n => exact .int n
  | string levels s => exact .string s
  | list _ ih => exact .list ih
  | map _ _ ih => exact .map ih

/-- Nothing of a value is lost in its document. -/
theorem IsPrintable.ofJson_toJson {levels : Nat} {v : Value} (h : v.IsPrintable levels) :
    ofJson v.toJson = v :=
  h.isDecoded.ofJson_toJson

end Value

/-- JSON output is decoded to the value it was printed from. Every value of absent values, integers,
strings, lists and maps with at most 127 levels of lists and maps is decoded from the bytes of its
JSON text, on one line or over several, so that both texts stand for the same value. -/
theorem decode_formatOutput {v : Value} (h : v.IsPrintable 127) :
    (∀ pretty, Value.decode (Text.Utf8.encode (formatOutput v true pretty).toList) = .ok v) ∧
      Value.decode (Text.Utf8.encode (formatOutput v true true).toList) =
        Value.decode (Text.Utf8.encode (formatOutput v true false).toList) := by
  have hdecode : ∀ layout, Value.decode (Text.Utf8.encode (v.toJson.text layout)) = .ok v := by
    intro layout
    rw [Value.decode, h.isExact.decode_text layout]
    change Except.ok (Value.ofJson v.toJson) = _
    rw [h.ofJson_toJson]
  have houtput : ∀ pretty,
      Value.decode (Text.Utf8.encode (formatOutput v true pretty).toList) = .ok v := by
    intro pretty
    cases pretty with
    | false =>
      change Value.decode (Text.Utf8.encode (String.ofList (v.toJson.text none)).toList) = _
      rw [String.toList_ofList, hdecode]
    | true =>
      change Value.decode (Text.Utf8.encode (String.ofList (v.toJson.text (some 0))).toList) = _
      rw [String.toList_ofList, hdecode]
  exact ⟨houtput, (houtput true).trans (houtput false).symm⟩

/-- A map of texts that need escapes and of the least integer, inside so many lists. -/
def Value.tower : Nat → Value
  | 0 => .map [("\"\n", .int Int64.minValue), ("\\é", .string "\x01\t/")]
  | levels + 1 => .list [tower levels, .nil]

theorem Value.isPrintable_tower (levels : Nat) : (tower levels).IsPrintable (levels + 1) := by
  induction levels with
  | zero =>
    have hkeys : "\"\n" < "\\é" := by decide
    exact .map (List.pairwise_pair.mpr hkeys)
      (List.forall_mem_cons.mpr ⟨.int 0 _, List.forall_mem_singleton.mpr (.string 0 _)⟩)
  | succ levels ih =>
    exact .list (List.forall_mem_cons.mpr ⟨ih, List.forall_mem_singleton.mpr (.nil _)⟩)

/-- The deepest values that the reader takes. -/
theorem decode_formatOutput_tower :
    (Value.tower 126).IsPrintable 127 ∧ ∀ pretty,
      Value.decode (Text.Utf8.encode (formatOutput (Value.tower 126) true pretty).toList) =
        .ok (Value.tower 126) :=
  ⟨Value.isPrintable_tower 126, (decode_formatOutput (Value.isPrintable_tower 126)).1⟩

end CallScript
