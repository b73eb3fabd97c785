import CallScript.Proofs.Layout
import CallScript.Proofs.LineJoining
import Mathlib.Data.List.TakeWhile
import Mathlib.Data.Nat.Digits.Lemmas

/-!
# Where numbers end and what they say

A number takes a minus sign, if there is one, and then all the digits and points that follow. What it
says depends on what was taken alone: without a point it is the integer of its digits if a word of 64
bits holds that integer, with one point it is a float if there is a digit on either side of the
point, and everything else is a failure.
-/

namespace CallScript

/-! ## The value of digits -/

namespace Decimal

/-- The number with the given decimal digits, the last of which counts ones. -/
def placeValue (digits : List Char) : Nat :=
  Nat.ofDigits 10 (digits.reverse.map fun c => c.toNat - '0'.toNat)

/-- Reading digits from left to right adds up their places. -/
theorem readNat_eq_placeValue (digits : List Char) : readNat digits = placeValue digits := by
  induction digits using List.reverseRecOn with
  | nil => rfl
  | append_singleton digits c ih =>
    have hread : readNat (digits ++ [c]) = 10 * readNat digits + (c.toNat - '0'.toNat) :=
      Nat.ofDigitChars_append 0
    have hplace : placeValue (digits ++ [c]) = c.toNat - '0'.toNat + 10 * placeValue digits := by
      unfold placeValue
      rw [List.reverse_append, List.reverse_singleton, List.singleton_append, List.map_cons,
        Nat.ofDigits_cons]
    rw [hread, hplace, ih, Nat.add_comm]

end Decimal

/-! ## Numerals -/

/-- Digits and points in any order, perhaps with a minus sign before them. -/
def IsNumeral (text : List Char) : Prop :=
  ∃ digits, (∀ c ∈ digits, c.isDigit = true ∨ c = '.') ∧ (text = digits ∨ text = '-' :: digits)

/-- The text begins with the numeral, and with no longer one. -/
structure IsLongestNumeral (text numeral rest : List Char) : Prop where
  text_eq : text = numeral ++ rest
  isNumeral : IsNumeral numeral
  length_le : ∀ longer, longer <+: text → IsNumeral longer → longer.length ≤ numeral.length

/-- A text begins with one longest numeral. -/
theorem IsLongestNumeral.unique {text numeral numeral' rest rest' : List Char}
    (h : IsLongestNumeral text numeral rest) (h' : IsLongestNumeral text numeral' rest') :
    numeral = numeral' := by
  have hle := h'.length_le numeral ⟨rest, h.text_eq.symm⟩ h.isNumeral
  have hge := h.length_le numeral' ⟨rest', h'.text_eq.symm⟩ h'.isNumeral
  have hsplit : numeral ++ rest = numeral' ++ rest' := h.text_eq.symm.trans h'.text_eq
  exact (List.append_inj hsplit (Nat.le_antisymm hle hge)).1

/-- The integer that the digits of a numeral and its sign stand for. -/
def decimalValue (numeral : List Char) : Int :=
  if numeral.head? = some '-' then -(Decimal.placeValue (numeral.filter Char.isDigit) : Int)
  else Decimal.placeValue (numeral.filter Char.isDigit)

/-- The numeral of an integer that a word of 64 bits holds. -/
structure IsInteger (numeral : List Char) : Prop where
  points_eq : numeral.count '.' = 0
  exists_digit : ∃ c ∈ numeral, c.isDigit = true
  le_value : -2 ^ 63 ≤ decimalValue numeral
  value_le : decimalValue numeral ≤ 2 ^ 63 - 1

/-- A numeral with one point and some digit. -/
structure IsFloat (numeral : List Char) : Prop where
  points_eq : numeral.count '.' = 1
  exists_digit : ∃ c ∈ numeral, c.isDigit = true

/-- Digits and points behind a minus sign or without one. -/
def signed (negative : Bool) (digits : List Char) : List Char :=
  (if negative then ['-'] else []) ++ digits

/-- A sign is no point. -/
theorem count_signed (negative : Bool) (digits : List Char) :
    (signed negative digits).count '.' = digits.count '.' := by
  cases negative with
  | false => rfl
  | true => simp [signed]

/-- A sign is no digit. -/
theorem filter_signed (negative : Bool) (digits : List Char) :
    (signed negative digits).filter Char.isDigit = digits.filter Char.isDigit := by
  cases negative with
  | false => rfl
  | true => rfl

/-- The digits of a numeral stand behind its sign. -/
theorem exists_digit_signed_iff (negative : Bool) (digits : List Char) :
    (∃ c ∈ signed negative digits, c.isDigit = true) ↔ ∃ c ∈ digits, c.isDigit = true := by
  cases negative with
  | false => exact Iff.rfl
  | true =>
    have hsign : '-'.isDigit = false := rfl
    simp [signed, hsign]

namespace Lexeme

/-- The characters of numbers are the digits and the point. -/
theorem isNumberChar_iff {c : Char} : isNumberChar c = true ↔ c.isDigit = true ∨ c = '.' := by
  simp [isNumberChar]

/-- Only the sign makes a numeral begin with a minus. -/
theorem head?_signed {digits : List Char} (h : ∀ c ∈ digits, isNumberChar c = true)
    (negative : Bool) : (signed negative digits).head? = some '-' ↔ negative = true := by
  cases negative with
  | true => simp [signed]
  | false =>
    simp only [signed, Bool.false_eq_true, if_false, List.nil_append, iff_false]
    intro hhead
    exact absurd (h '-' (List.mem_of_mem_head? hhead)) (by decide)

/-- Without a point all characters behind the sign are digits. -/
theorem isDigit_of_count_eq_zero {digits : List Char} (h : ∀ c ∈ digits, isNumberChar c = true)
    (hpoint : digits.count '.' = 0) : ∀ c ∈ digits, c.isDigit = true := by
  intro c hc
  rcases isNumberChar_iff.mp (h c hc) with hdigit | rfl
  · exact hdigit
  · exact absurd hc (List.count_eq_zero.mp hpoint)

/-- The value of a numeral without a point is read off its sign and its digits. -/
theorem decimalValue_signed {digits : List Char} (h : ∀ c ∈ digits, isNumberChar c = true)
    (hpoint : digits.count '.' = 0) (negative : Bool) :
    decimalValue (signed negative digits) =
      if negative = true then -(Decimal.readNat digits : Int) else Decimal.readNat digits := by
  have hfilter : (signed negative digits).filter Char.isDigit = digits := by
    rw [filter_signed, List.filter_eq_self]
    exact isDigit_of_count_eq_zero h hpoint
  simp only [decimalValue, hfilter, head?_signed h, Decimal.readNat_eq_placeValue]

/-! ## The longest numeral -/

/-- Behind the sign of a numeral there are characters of numbers only. -/
theorem isNumberChar_of_isNumeral {text : List Char} (h : IsNumeral text) :
    ∀ c ∈ unsigned text, isNumberChar c = true := by
  obtain ⟨digits, hdigits, htext⟩ := h
  have hchars : ∀ c ∈ digits, isNumberChar c = true := fun c hc =>
    isNumberChar_iff.mpr (hdigits c hc)
  rcases htext with rfl | rfl
  · have hunsigned : unsigned text = text := by
      unfold unsigned
      split
      · next hminus =>
        have hmem := List.mem_of_mem_head? (beq_iff_eq.mp hminus)
        exact absurd (hchars '-' hmem) (by decide)
      · rfl
    rwa [hunsigned]
  · exact hchars

/-- What a number is spelled with is its sign and the digits and points behind it. -/
theorem numberSpelled_eq_signed (text : List Char) :
    numberSpelled text =
      signed (text.head? == some '-') ((unsigned text).takeWhile isNumberChar) :=
  rfl

/-- What a number is spelled with is the longest numeral at the beginning of its text. -/
theorem numberSpelled_isLongestNumeral (text : List Char) :
    IsLongestNumeral text (numberSpelled text) ((unsigned text).dropWhile isNumberChar) where
  text_eq := (numberSpelled_append text).symm
  isNumeral := by
    refine ⟨(unsigned text).takeWhile isNumberChar, ?_, ?_⟩
    · exact fun c hc => isNumberChar_iff.mp (List.mem_takeWhile_imp hc)
    · unfold numberSpelled signOf
      split
      · exact .inr rfl
      · exact .inl rfl
  length_le := by
    intro longer hlonger hnumeral
    obtain ⟨rest, rfl⟩ := hlonger
    cases longer with
    | nil => exact Nat.zero_le _
    | cons c tail =>
      -- the sign is the same, and the characters behind it all belong to a number
      have hsign : signOf (c :: tail ++ rest) = signOf (c :: tail) := rfl
      have htake : (unsigned (c :: tail) ++ rest).takeWhile isNumberChar =
          unsigned (c :: tail) ++ rest.takeWhile isNumberChar :=
        List.takeWhile_append_of_pos (isNumberChar_of_isNumeral hnumeral)
      have hlength := congrArg List.length (signOf_append_unsigned (c :: tail))
      rw [numberSpelled, hsign, unsigned_cons_append, htake]
      simp only [List.length_append] at hlength ⊢
      omega

/-! ## What numerals say -/

/-- Digits with their sign give an integer exactly if there are some and a word of 64 bits holds
their value. -/
theorem integer_cases (negative : Bool) (digits : List Char) {value : Int}
    (hvalue : value =
      if negative = true then -(Decimal.readNat digits : Int) else Decimal.readNat digits) :
    (digits ≠ [] ∧ -2 ^ 63 ≤ value ∧ value ≤ 2 ^ 63 - 1 ∧
      integer negative digits = .ok (.int (Int64.ofInt value))) ∨
    (¬ (digits ≠ [] ∧ -2 ^ 63 ≤ value ∧ value ≤ 2 ^ 63 - 1) ∧
      ∃ why, integer negative digits = .error why) := by
  unfold integer
  by_cases hempty : digits = []
  · simp [hempty]
  · simp only [List.isEmpty_iff, hempty, if_false]
    cases negative with
    | true =>
      simp only [if_true] at hvalue ⊢
      split
      · next hfits => exact .inl ⟨hempty, by omega, by omega, by rw [hvalue]⟩
      · next hlarge => exact .inr ⟨by omega, _, rfl⟩
    | false =>
      simp only [Bool.false_eq_true, if_false] at hvalue ⊢
      split
      · next hfits => exact .inl ⟨hempty, by omega, by omega, by rw [hvalue]⟩
      · next hlarge => exact .inr ⟨by omega, _, rfl⟩

/-- Characters of numbers with one point are split at it into digits. -/
theorem exists_split_at_point {digits : List Char} (h : ∀ c ∈ digits, isNumberChar c = true)
    (hpoint : digits.count '.' = 1) :
    ∃ whole fraction, digits = whole ++ '.' :: fraction ∧
      (∀ c ∈ whole, c.isDigit = true) ∧ ∀ c ∈ fraction, c.isDigit = true := by
  have hmem : '.' ∈ digits := List.count_pos_iff.mp (by omega)
  obtain ⟨whole, fraction, rfl⟩ := List.append_of_mem hmem
  rw [List.count_append, List.count_cons_self] at hpoint
  refine ⟨whole, fraction, rfl, ?_, ?_⟩
  · exact isDigit_of_count_eq_zero (fun c hc => h c (by simp [hc])) (by omega)
  · exact isDigit_of_count_eq_zero (fun c hc => h c (by simp [hc])) (by omega)

/-- The double nearest to the number with the given digits before and behind its point. -/
def nearestFloat (negative : Bool) (whole fraction : List Char) : Float :=
  let magnitude := Float.ofScientific (Decimal.placeValue (whole ++ fraction)) true fraction.length
  if negative then -magnitude else magnitude

/-- Characters with one point are read as the digits on its two sides. -/
theorem float_append (negative : Bool) {whole : List Char} (hwhole : ∀ c ∈ whole, c.isDigit = true)
    (fraction : List Char) :
    float negative (whole ++ '.' :: fraction) =
      if whole.isEmpty && fraction.isEmpty then .error .noFloat
      else .ok (.float (nearestFloat negative whole fraction)) := by
  have hstop : ∀ c ∈ ('.' :: fraction).head?, (c != '.') = false := by simp
  have hbefore : ∀ c ∈ whole, (c != '.') = true := by
    intro c hc
    exact bne_iff_ne.mpr (ne_of_class (hwhole c hc) rfl)
  obtain ⟨htake, hdrop⟩ := takeWhile_dropWhile_append hbefore hstop
  simp only [float, htake, hdrop, List.drop_succ_cons, List.drop_zero, nearestFloat,
    Decimal.readNat_eq_placeValue]

section Pointed

variable {whole fraction : List Char} (hwhole : ∀ c ∈ whole, c.isDigit = true)
  (hfraction : ∀ c ∈ fraction, c.isDigit = true)
include hwhole hfraction

/-- Digits are no points. -/
theorem count_pointed : (whole ++ '.' :: fraction).count '.' = 1 := by
  have hnone : ∀ {digits : List Char}, (∀ c ∈ digits, c.isDigit = true) → digits.count '.' = 0 :=
    fun h => List.count_eq_zero.mpr fun hmem => absurd (h '.' hmem) (by decide)
  rw [List.count_append, List.count_cons_self, hnone hwhole, hnone hfraction]

/-- The digits of a numeral with a point stand on either side of it. -/
theorem exists_digit_pointed_iff :
    (∃ c ∈ whole ++ '.' :: fraction, c.isDigit = true) ↔ ¬ (whole = [] ∧ fraction = []) := by
  constructor
  · rintro ⟨c, hc, hdigit⟩ ⟨rfl, rfl⟩
    rw [List.mem_singleton.mp hc] at hdigit
    exact absurd hdigit (by decide)
  · intro hne
    cases whole with
    | cons c whole => exact ⟨c, List.mem_cons_self, hwhole c List.mem_cons_self⟩
    | nil =>
      cases fraction with
      | cons c fraction => exact ⟨c, by simp, hfraction c List.mem_cons_self⟩
      | nil => exact absurd ⟨rfl, rfl⟩ hne

/-- A numeral with a point and some digit is read as the nearest double. -/
theorem outcome_numberOf_pointed (hne : ¬ (whole = [] ∧ fraction = [])) (negative : Bool)
    (rest : List Char) :
    (numberOf negative (whole ++ '.' :: fraction) rest).outcome =
      .ok (.literal, .float (nearestFloat negative whole fraction)) := by
  have hread := float_append negative hwhole fraction
  rw [if_neg (by simpa using hne)] at hread
  simp [numberOf, count_pointed hwhole hfraction, hread, token]

end Pointed

/-- A number takes its numeral and leaves the rest, whatever the numeral says. -/
theorem taken_rest_numberOf (negative : Bool) (digits rest : List Char) :
    (numberOf negative digits rest).taken = signed negative digits ∧
      (numberOf negative digits rest).rest = rest := by
  unfold numberOf
  dsimp only
  split
  · exact ⟨rfl, rfl⟩
  · split
    · exact ⟨rfl, rfl⟩
    · exact ⟨rfl, rfl⟩

section Outcome

variable {negative : Bool} {digits : List Char} (h : ∀ c ∈ digits, isNumberChar c = true)
include h

/-- The numeral of an integer is read as this integer. -/
theorem outcome_numberOf_of_isInteger (hint : IsInteger (signed negative digits))
    (rest : List Char) :
    ∃ n : Int64, n.toInt = decimalValue (signed negative digits) ∧
      (numberOf negative digits rest).outcome = .ok (.literal, .int n) := by
  obtain ⟨hpoints, hdigit, hlow, hhigh⟩ := hint
  rw [count_signed] at hpoints
  rw [exists_digit_signed_iff] at hdigit
  have hne : digits ≠ [] := by
    obtain ⟨c, hc, -⟩ := hdigit
    exact List.ne_nil_of_mem hc
  rcases integer_cases negative digits (decimalValue_signed h hpoints negative) with
    ⟨-, -, -, hread⟩ | ⟨hnone, -⟩
  · refine ⟨_, Int64.toInt_ofInt_of_le hlow (by omega), ?_⟩
    simp [numberOf, hpoints, hread, token]
  · exact absurd ⟨hne, hlow, hhigh⟩ hnone

/-- A numeral with one point and a digit is read as the double nearest to its digits. -/
theorem outcome_numberOf_of_isFloat (hfloat : IsFloat (signed negative digits))
    (rest : List Char) :
    ∃ whole fraction, digits = whole ++ '.' :: fraction ∧
      (∀ c ∈ whole, c.isDigit = true) ∧ (∀ c ∈ fraction, c.isDigit = true) ∧
      (numberOf negative digits rest).outcome =
        .ok (.literal, .float (nearestFloat negative whole fraction)) := by
  obtain ⟨hpoints, hdigit⟩ := hfloat
  rw [count_signed] at hpoints
  rw [exists_digit_signed_iff] at hdigit
  obtain ⟨whole, fraction, rfl, hwhole, hfraction⟩ := exists_split_at_point h hpoints
  have hne := (exists_digit_pointed_iff hwhole hfraction).mp hdigit
  exact ⟨whole, fraction, rfl, hwhole, hfraction,
    outcome_numberOf_pointed hwhole hfraction hne negative rest⟩

/-- Every other numeral is a fault. -/
theorem outcome_numberOf_of_not (hint : ¬ IsInteger (signed negative digits))
    (hfloat : ¬ IsFloat (signed negative digits)) (rest : List Char) :
    ∃ why, (numberOf negative digits rest).outcome = .error why := by
  have hdigits := exists_digit_signed_iff negative digits
  have hcount := count_signed negative digits
  by_cases hmany : 1 < digits.count '.'
  · exact ⟨.manyPoints (signed negative digits), by simp [numberOf, hmany, signed, fault]⟩
  by_cases hone : digits.count '.' = 1
  · obtain ⟨whole, fraction, rfl, hwhole, hfraction⟩ := exists_split_at_point h hone
    have hnone : whole = [] ∧ fraction = [] := by
      by_contra hne
      have hdigit := (exists_digit_pointed_iff hwhole hfraction).mpr hne
      exact hfloat ⟨hcount.trans hone, hdigits.mpr hdigit⟩
    obtain ⟨rfl, rfl⟩ := hnone
    exact ⟨.invalidNumber (signed negative ['.']) .noFloat, rfl⟩
  · have hzero : digits.count '.' = 0 := by omega
    rcases integer_cases negative digits (decimalValue_signed h hzero negative) with
      ⟨hne, hlow, hhigh, -⟩ | ⟨-, why, hread⟩
    · obtain ⟨c, hc⟩ := List.exists_mem_of_ne_nil digits hne
      have hdigit : ∃ c ∈ digits, c.isDigit = true :=
        ⟨c, hc, isDigit_of_count_eq_zero h hzero c hc⟩
      exact absurd ⟨hcount.trans hzero, hdigits.mpr hdigit, hlow, hhigh⟩ hint
    · exact ⟨.invalidNumber (signed negative digits) why,
        by simp [numberOf, hzero, hread, signed, fault]⟩

end Outcome

end Lexeme

/-! ## Numbers as tokens -/

/-- A digit or a minus sign at the beginning of a text begins a number there. -/
theorem TokenStream.next_ofText_number (source : String) {c : Char}
    (hc : (c.isDigit || c == '-') = true) (rest : List Char) :
    (ofText source (c :: rest)).next =
      (Cursor.tokenOf (Position.start source) (Lexeme.number (c :: rest)),
        reading (Lexeme.number (c :: rest)).rest
          ((Position.start source).advance (Lexeme.number (c :: rest)).taken)) := by
  have hne : ∀ d, (d.isDigit || d == '-') = false → c ≠ d := fun d hd =>
    Lexeme.ne_of_class (p := fun c => c.isDigit || c == '-') hc hd
  have hblank : isBlank c = false := by simp [isBlank, hne ' ' rfl, hne '\t' rfl]
  rw [next_ofText_cons source hblank, Lexeme.scan_of_isDigit hc]

/-- Numbers are told apart and read exactly. A text that begins with a digit or a minus sign begins
with the token of its longest numeral: an integer of exactly that value if there is no point, some
digit and a word of 64 bits holds the value; the float nearest to the digits on the two sides of the
point if there are one point and some digit; and in every other case a failure at the beginning. In
particular every integer written in decimal is read back before any text that does not begin with a
digit or a point. -/
theorem number_is_longest_numeral (source : String) :
    (∀ text : List Char, (∃ c ∈ text.head?, c.isDigit = true ∨ c = '-') →
      ∃ numeral rest token, IsLongestNumeral text numeral rest ∧
        (TokenStream.ofText source text).next =
          (token, TokenStream.reading rest ((Position.start source).advance numeral)) ∧
        (IsInteger numeral → ∃ n : Int64, n.toInt = decimalValue numeral ∧
          token = ⟨Position.start source, .literal, .int n⟩) ∧
        (IsFloat numeral → ∃ negative whole fraction,
          numeral = signed negative (whole ++ '.' :: fraction) ∧
          (∀ c ∈ whole ++ fraction, c.isDigit = true) ∧
          token = ⟨Position.start source, .literal,
            .float (Lexeme.nearestFloat negative whole fraction)⟩) ∧
        (¬ IsInteger numeral → ¬ IsFloat numeral →
          ∃ about, token = Token.failure (Position.start source) about)) ∧
    ∀ (n : Int64) (rest : List Char), (∀ c ∈ rest.head?, c.isDigit = false ∧ c ≠ '.') →
      (TokenStream.ofText source (Decimal.intText n.toInt ++ rest)).next =
        (⟨Position.start source, .literal, .int n⟩,
          TokenStream.reading rest ((Position.start source).advance (Decimal.intText n.toInt))) := by
  constructor
  · intro text hbegins
    obtain ⟨c, hhead, hc⟩ := hbegins
    obtain ⟨tail, rfl⟩ := List.head?_eq_some_iff.mp hhead
    have hdigits : ∀ d ∈ (Lexeme.unsigned (c :: tail)).takeWhile Lexeme.isNumberChar,
        Lexeme.isNumberChar d = true := fun d hd => List.mem_takeWhile_imp hd
    have hnumber := Lexeme.number_eq_numberOf (c :: tail)
    have hspelled := Lexeme.numberSpelled_eq_signed (c :: tail)
    refine ⟨Lexeme.numberSpelled (c :: tail), (Lexeme.number (c :: tail)).rest,
      Cursor.tokenOf (Position.start source) (Lexeme.number (c :: tail)), ?_, ?_, ?_, ?_, ?_⟩
    · rw [hnumber, (Lexeme.taken_rest_numberOf _ _ _).2]
      exact Lexeme.numberSpelled_isLongestNumeral (c :: tail)
    · rw [TokenStream.next_ofText_number source (by simpa using hc), hspelled, hnumber,
        (Lexeme.taken_rest_numberOf _ _ _).1]
    · intro hint
      rw [hspelled] at hint ⊢
      obtain ⟨n, hvalue, hread⟩ := Lexeme.outcome_numberOf_of_isInteger hdigits hint _
      refine ⟨n, hvalue, ?_⟩
      rw [hnumber, Cursor.tokenOf, hread]
    · intro hfloat
      rw [hspelled] at hfloat ⊢
      obtain ⟨whole, fraction, hsplit, hwhole, hfraction, hread⟩ :=
        Lexeme.outcome_numberOf_of_isFloat hdigits hfloat _
      refine ⟨_, whole, fraction, congrArg _ hsplit, List.forall_mem_append.mpr ⟨hwhole, hfraction⟩,
        ?_⟩
      rw [hnumber, Cursor.tokenOf, hread]
    · intro hint hfloat
      rw [hspelled] at hint hfloat
      obtain ⟨why, hread⟩ := Lexeme.outcome_numberOf_of_not hdigits hint hfloat _
      refine ⟨why.message, ?_⟩
      rw [hnumber, Cursor.tokenOf, hread]
  · intro n rest hrest
    obtain ⟨c, tail, htext, hc⟩ := Lexeme.exists_intText_eq n.toInt
    have hstop : ∀ c ∈ rest.head?, Lexeme.isNumberChar c = false := by
      intro d hd
      obtain ⟨hdigit, hpoint⟩ := hrest d hd
      simp [Lexeme.isNumberChar, hdigit, hpoint]
    have hread := Lexeme.number_intText n hstop
    rw [htext, List.cons_append] at hread ⊢
    rw [TokenStream.next_ofText_number source hc, hread]
    rfl

end CallScript
