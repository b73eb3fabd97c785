import CallScript.Proofs.DoubleRange
import CallScript.Proofs.NumberLiterals

/-!
# Floats written and read again

A finite float is written with a point and a digit on either side of it: a whole number gets its
point and its zero from the notation, and any other number has places of its own, since no whole
number is rounded to it. So the text is a float again. What is not finite is written as a word, and
words are no floats. Literals reach it, since a literal of any magnitude is a float.
-/

namespace CallScript

/-! ## The places of a fraction -/

namespace Decimal

/-- A number with a fraction has binary places, and they are not all zero. -/
theorem Binary64.exists_of_isWhole_eq_false {b : Binary64} (h : b.isWhole = false) :
    ∃ k : Nat, b.exponent = .negSucc k ∧ b.mantissa % 2 ^ (k + 1) ≠ 0 := by
  unfold isWhole fraction at h
  split at h
  · exact absurd h.symm Bool.false_ne_true
  · next k hk => exact ⟨k, hk, by simpa using h⟩

/-- What lies in an interval lies between its ends. -/
theorem RoundingInterval.le_of_contains {i : RoundingInterval} {scale n : Nat}
    (h : i.contains scale n = true) : i.low * scale ≤ n ∧ n ≤ i.high * scale := by
  unfold contains at h
  split at h
  · simpa using h
  · obtain ⟨hlow, hhigh⟩ : i.low * scale < n ∧ n < i.high * scale := by simpa using h
    exact ⟨hlow.le, hhigh.le⟩

/-- No whole number is rounded to a number with a fraction: the interval of the latter reaches only
to the middle of the next numbers with as many binary places, and whole numbers are such numbers. -/
theorem RoundingInterval.not_contains_whole {b : Binary64} (h : b.isWhole = false) (n : Nat) :
    (ofBinary64 b).contains 1 (n * (ofBinary64 b).unit) = false := by
  obtain ⟨k, hexponent, hfraction⟩ := Binary64.exists_of_isWhole_eq_false h
  have hscale : b.exponent - 2 = .negSucc (k + 2) := by
    rw [hexponent]
    omega
  have hunit : 2 ^ (k + 3) = 4 * 2 ^ (k + 1) := by ring
  have hwhole : b.mantissa ≠ n * 2 ^ (k + 1) := by
    intro heq
    rw [heq, Nat.mul_mod_left] at hfraction
    exact hfraction rfl
  refine Bool.eq_false_iff.mpr fun hcontains => hwhole ?_
  obtain ⟨hlow, hhigh⟩ := le_of_contains hcontains
  simp only [ofBinary64, hscale, Nat.mul_one, Nat.pow_eq, hunit, Nat.mul_left_comm n 4]
    at hlow hhigh
  -- four units are one binary place, and the ends lie at most two units from the center
  split at hlow
  · omega
  · omega

/-- The grids from the unit on have no point that is rounded to a number with a fraction. -/
theorem RoundingInterval.onGrid_eq_none {b : Binary64} (h : b.isWhole = false) (tie : Tie)
    (k : Nat) : (ofBinary64 b).onGrid tie k = none := by
  have hgrid : ∀ n,
      (ofBinary64 b).contains 1 (n * ((ofBinary64 b).unit * Nat.pow 10 k)) = false := by
    intro n
    rw [Nat.mul_comm _ (Nat.pow 10 k), ← Nat.mul_assoc]
    exact not_contains_whole h _
  change (ofBinary64 b).onGrid tie (.ofNat k) = none
  simp only [onGrid, hgrid, Bool.false_and, Bool.false_eq_true, if_false]

/-- A point of a grid has the exponent of the grid. -/
theorem RoundingInterval.exponent_of_onGrid {i : RoundingInterval} {tie : Tie} {k : Int}
    {d : Scientific} (h : i.onGrid tie k = some d) : d.exponent = k := by
  unfold onGrid at h
  grind

/-- The search for a grid ends below the unit. -/
theorem RoundingInterval.exponent_firstGrid_neg {b : Binary64} (h : b.isWhole = false) (tie : Tie)
    (fuel : Nat) {k : Int} (hk : k < fuel) :
    ((RoundingInterval.ofBinary64 b).firstGrid tie fuel k).exponent < 0 := by
  induction fuel generalizing k with
  | zero => exact hk
  | succ fuel ih =>
    rw [firstGrid]
    split
    · next d hd =>
      rw [exponent_of_onGrid hd]
      by_contra hk
      obtain ⟨n, rfl⟩ := Int.eq_ofNat_of_zero_le (Int.not_lt.mp hk)
      rw [onGrid_eq_none h] at hd
      exact absurd hd (by simp)
    · exact ih (by omega)

/-- The shortest decimal of a number with a fraction has places of its own. -/
theorem exponent_shortest_neg {b : Binary64} (h : b.isWhole = false) (tie : Tie) :
    (shortest tie b).exponent < 0 := by
  have hne : b.mantissa ≠ 0 := by
    obtain ⟨k, -, hfraction⟩ := Binary64.exists_of_isWhole_eq_false h
    intro hzero
    rw [hzero, Nat.zero_mod] at hfraction
    exact hfraction rfl
  rw [shortest, if_neg hne]
  exact RoundingInterval.exponent_firstGrid_neg h tie _ (by omega)

/-! ## The text of doubles -/

/-- Digits before and behind a point, some of either. -/
structure IsPositional (whole fraction : List Char) : Prop where
  whole_ne_nil : whole ≠ []
  fraction_ne_nil : fraction ≠ []
  isDigit_whole : ∀ c ∈ whole, c.isDigit = true
  isDigit_fraction : ∀ c ∈ fraction, c.isDigit = true

/-- A decimal with places of its own is written with digits on either side of a point. -/
theorem exists_positional_eq {d : Scientific} (h : d.exponent < 0) :
    ∃ whole fraction, positional d = whole ++ '.' :: fraction ∧ IsPositional whole fraction := by
  unfold positional
  dsimp only
  split
  · next k hk =>
    -- here the point would come from the notation
    rw [hk] at h
    exact absurd h (Int.not_lt.mpr (Int.natCast_nonneg k))
  · next k hk =>
    split
    · next hlength =>
      refine ⟨_, _, rfl, ?_, ?_, ?_, ?_⟩
      · refine List.ne_nil_of_length_pos ?_
        rw [List.length_take]
        omega
      · refine List.ne_nil_of_length_pos ?_
        rw [List.length_drop]
        omega
      · exact fun c hc => isDigit_of_mem_natText (List.mem_of_mem_take hc)
      · exact fun c hc => isDigit_of_mem_natText (List.mem_of_mem_drop hc)
    · refine ⟨['0'], _, rfl, by simp, by simp [natText_ne_nil], by simp, fun c hc => ?_⟩
      rcases List.mem_append.mp hc with hc | hc
      · rw [List.eq_of_mem_replicate hc]
        rfl
      · exact isDigit_of_mem_natText hc

/-- A double is finite if it is a number and not infinite. -/
theorem isFinite_eq (x : Float) : x.isFinite = (!x.isNaN && !x.isInf) := by
  change x.toModel.unpack.isFinite = (!x.toModel.unpack.isNaN && !x.toModel.unpack.isInf)
  cases x.toModel.unpack with
  | notANumber => rfl
  | infinity => rfl
  | zero => rfl
  | finite => rfl

/-- A finite double is written with its sign and digits on either side of a point. -/
theorem floatText_of_isFinite {x : Float} (h : x.isFinite = true) :
    ∃ negative whole fraction, floatText x = signed negative (whole ++ '.' :: fraction) ∧
      IsPositional whole fraction := by
  obtain ⟨hnumber, hfinite⟩ : x.isNaN = false ∧ x.isInf = false := by
    simpa [isFinite_eq] using h
  simp only [floatText, hnumber, hfinite, Bool.false_eq_true, if_false]
  split
  · exact ⟨_, _, ['0'], rfl, natText_ne_nil _, by simp, fun c hc => isDigit_of_mem_natText hc,
      by simp⟩
  · next hwhole =>
    obtain ⟨whole, fraction, hdigits, hpositional⟩ :=
      exists_positional_eq (exponent_shortest_neg (Bool.eq_false_iff.mpr hwhole) .up)
    rw [hdigits]
    exact ⟨_, _, _, rfl, hpositional⟩

/-- A double that is not finite is written as a word. -/
theorem floatText_of_isFinite_eq_false {x : Float} (h : x.isFinite = false) :
    floatText x ∈ ["NaN".toList, "inf".toList, "-inf".toList] := by
  rw [isFinite_eq] at h
  unfold floatText
  cases hnumber : x.isNaN with
  | true => exact List.mem_cons_self
  | false =>
    have hinfinite : x.isInf = true := by
      rw [hnumber] at h
      simpa using h
    simp only [hinfinite, Bool.false_eq_true, if_false, if_true]
    cases (Binary64.ofFloat x).negative with
    | false => decide
    | true => decide

end Decimal

/-! ## Numerals with a point -/

/-- The number that the digits of a numeral and the place of its point stand for, without its
sign. -/
def decimalMagnitude (numeral : List Char) : ℚ :=
  Decimal.placeValue (numeral.filter Char.isDigit) /
    10 ^ (numeral.dropWhile (· != '.')).tail.length

namespace Lexeme

section Pointed

variable {whole fraction : List Char} (hwhole : ∀ c ∈ whole, c.isDigit = true)
  (hfraction : ∀ c ∈ fraction, c.isDigit = true)
include hwhole hfraction

/-- Digits and a point are characters of numbers. -/
theorem isNumberChar_of_mem_pointed : ∀ c ∈ whole ++ '.' :: fraction, isNumberChar c = true := by
  intro c hc
  rw [isNumberChar_iff]
  rcases List.mem_append.mp hc with hc | hc
  · exact .inl (hwhole c hc)
  · rcases List.mem_cons.mp hc with rfl | hc
    · exact .inr rfl
    · exact .inl (hfraction c hc)

/-- The nearest double is finite exactly if the magnitude of the numeral lies below the overflow. -/
theorem isFinite_nearestFloat_iff (negative : Bool) :
    (nearestFloat negative whole fraction).isFinite = true ↔
      decimalMagnitude (signed negative (whole ++ '.' :: fraction)) < Decimal.overflow := by
  have hdigits : (signed negative (whole ++ '.' :: fraction)).filter Char.isDigit =
      whole ++ fraction := by
    rw [filter_signed, List.filter_append, List.filter_cons_of_neg (by decide),
      List.filter_eq_self.mpr hwhole, List.filter_eq_self.mpr hfraction]
  have hplaces : ((signed negative (whole ++ '.' :: fraction)).dropWhile (· != '.')).tail =
      fraction := by
    have hbefore : ∀ c ∈ signed negative whole, (c != '.') = true := by
      intro c hc
      rw [bne_iff_ne]
      rcases List.mem_append.mp hc with hc | hc
      · cases negative with
        | true =>
          rw [List.mem_singleton.mp hc]
          decide
        | false => cases hc
      · exact ne_of_class (hwhole c hc) rfl
    rw [signed, ← List.append_assoc, ← signed, List.dropWhile_append_of_pos hbefore,
      List.dropWhile_cons_of_neg (by simp), List.tail_cons]
  have hsign : (nearestFloat negative whole fraction).isFinite =
      (Float.ofScientific (Decimal.placeValue (whole ++ fraction)) true
        fraction.length).isFinite := by
    cases negative with
    | true => exact Decimal.isFinite_neg _
    | false => rfl
  rw [hsign, Decimal.isFinite_ofScientific_iff, decimalMagnitude, hdigits, hplaces,
    div_lt_iff₀ (by positivity)]
  norm_cast

end Pointed

/-- A sign with digits and points behind it is a number of its own. -/
theorem number_signed {digits : List Char} (h : ∀ c ∈ digits, isNumberChar c = true)
    (negative : Bool) : number (signed negative digits) = numberOf negative digits [] := by
  have hsign : ((signed negative digits).head? == some '-') = negative := by
    rw [Bool.eq_iff_iff, beq_iff_eq, head?_signed h]
  have hunsigned : unsigned (signed negative digits) = digits := by
    unfold unsigned
    rw [hsign]
    cases negative with
    | true => rfl
    | false => rfl
  rw [number_eq_numberOf, hsign, hunsigned, List.takeWhile_eq_self_iff.mpr h,
    List.dropWhile_eq_nil_iff.mpr h]

/-- A number that is a float has a numeral with one point and some digit, and it is finite exactly
if the magnitude of the numeral lies below the overflow. -/
theorem isFinite_number_iff {text : List Char} {x : Float}
    (h : (number text).outcome = .ok (.literal, .float x)) :
    IsFloat (numberSpelled text) ∧
      (x.isFinite = true ↔ decimalMagnitude (numberSpelled text) < Decimal.overflow) := by
  have hdigits : ∀ c ∈ (unsigned text).takeWhile isNumberChar, isNumberChar c = true :=
    fun c hc => List.mem_takeWhile_imp hc
  rw [number_eq_numberOf] at h
  rw [numberSpelled_eq_signed]
  generalize (text.head? == some '-') = negative at *
  generalize (unsigned text).takeWhile isNumberChar = digits at *
  generalize (unsigned text).dropWhile isNumberChar = rest at *
  have hfloat : IsFloat (signed negative digits) := by
    by_contra hnot
    by_cases hint : IsInteger (signed negative digits)
    · obtain ⟨n, -, hread⟩ := outcome_numberOf_of_isInteger hdigits hint rest
      rw [hread] at h
      cases h
    · obtain ⟨why, hread⟩ := outcome_numberOf_of_not hdigits hint hnot rest
      rw [hread] at h
      cases h
  obtain ⟨whole, fraction, rfl, hwhole, hfraction, hread⟩ :=
    outcome_numberOf_of_isFloat hdigits hfloat rest
  rw [hread] at h
  cases h
  exact ⟨hfloat, isFinite_nearestFloat_iff hwhole hfraction negative⟩

/-- Only a number has a float as its value. -/
theorem isDigit_of_scan_float {c : Char} {rest : List Char} {kind : TokenKind} {x : Float}
    (h : (scan c rest).outcome = .ok (kind, .float x)) : (c.isDigit || c == '-') = true := by
  by_contra hnumber
  unfold scan at h
  rw [if_neg hnumber] at h
  -- no other scanner gives a float, whatever it finds
  simp only [comment, func, json, string, field, token, fault] at h
  repeat' split at h
  all_goals cases h

end Lexeme

/-! ## Tokens -/

namespace TokenStream

/-- Digits on either side of a point are one token, the nearest double, whatever their sign is. -/
theorem next_ofText_signed (source : String) {whole fraction : List Char}
    (h : Decimal.IsPositional whole fraction) (negative : Bool) :
    (ofText source (signed negative (whole ++ '.' :: fraction))).next =
      (⟨Position.start source, .literal, .float (Lexeme.nearestFloat negative whole fraction)⟩,
        reading [] ((Position.start source).advance
          (signed negative (whole ++ '.' :: fraction)))) := by
  obtain ⟨hwhole, -, hdigits, hdigits'⟩ := h
  obtain ⟨c, rest, hcons, hc⟩ : ∃ c rest, signed negative (whole ++ '.' :: fraction) = c :: rest ∧
      (c.isDigit || c == '-') = true := by
    cases negative with
    | true => exact ⟨'-', _, rfl, rfl⟩
    | false =>
      obtain ⟨c, whole, rfl⟩ := List.exists_cons_of_ne_nil hwhole
      refine ⟨c, _, rfl, ?_⟩
      rw [hdigits c List.mem_cons_self, Bool.true_or]
  have hchars := Lexeme.isNumberChar_of_mem_pointed hdigits hdigits'
  have hnumber := Lexeme.number_signed hchars negative
  obtain ⟨htaken, hrest⟩ := Lexeme.taken_rest_numberOf negative (whole ++ '.' :: fraction) []
  have hread := Lexeme.outcome_numberOf_pointed hdigits hdigits' (fun hnil => hwhole hnil.1)
    negative []
  rw [hcons] at hnumber htaken ⊢
  rw [next_ofText_number source hc, hnumber, hrest, htaken, Cursor.tokenOf, hread]

/-- The words for what is not finite begin with no literal. -/
theorem kind_next_ofText_word (source : String) {word : List Char}
    (h : word ∈ ["NaN".toList, "inf".toList, "-inf".toList]) :
    (ofText source word).next.1.kind ≠ .literal := by
  simp only [List.mem_cons, List.not_mem_nil, or_false] at h
  have hfield : TokenKind.field ≠ .literal := by decide
  have herror : TokenKind.error ≠ .literal := by decide
  rcases h with rfl | rfl | rfl
  · exact hfield
  · exact hfield
  · exact herror

/-- A text begins with a float only if a number begins behind its blanks. -/
theorem number_of_next_ofText {source : String} {text : List Char} {position : Position}
    {x : Float} (h : (ofText source text).next.1 = ⟨position, .literal, .float x⟩) :
    (Lexeme.number (text.dropWhile isBlank)).outcome = .ok (.literal, .float x) := by
  simp only [ofText, next, Cursor.next] at h
  split at h
  · cases h
  · next c rest hrest =>
    have hread : (Lexeme.scan c rest).outcome = .ok (.literal, .float x) := by
      unfold Cursor.tokenOf at h
      split at h
      · next houtcome =>
        cases h
        exact houtcome
      · cases h
    rw [hrest, ← Lexeme.scan_of_isDigit (Lexeme.isDigit_of_scan_float hread), hread]

end TokenStream

/-- A written float is read as a float again exactly if it is finite. Where a text begins with a
float, blanks apart, the float is that of the longest numeral there. If the magnitude of this
numeral lies below the middle between the largest double and the power of two behind it, then the
text of the float is one token, a float again. If it does not, then the text of the float begins
with no literal. -/
theorem rendered_float_is_read_back (source source' : String) {text : List Char}
    {position : Position} {x : Float}
    (h : (TokenStream.ofText source text).next.1 = ⟨position, .literal, .float x⟩) :
    ∃ numeral rest, IsLongestNumeral (text.dropWhile isBlank) numeral rest ∧ IsFloat numeral ∧
      (decimalMagnitude numeral < Decimal.overflow →
        ∃ y, (TokenStream.ofText source' (Value.float x).text).next =
          (⟨Position.start source', .literal, .float y⟩,
            TokenStream.reading [] ((Position.start source').advance (Value.float x).text))) ∧
      (Decimal.overflow ≤ decimalMagnitude numeral →
        (TokenStream.ofText source' (Value.float x).text).next.1.kind ≠ .literal) := by
  have hnumber := TokenStream.number_of_next_ofText h
  obtain ⟨hfloat, hfinite⟩ := Lexeme.isFinite_number_iff hnumber
  have htext : (Value.float x).text = Decimal.floatText x := rfl
  rw [htext]
  refine ⟨_, _, Lexeme.numberSpelled_isLongestNumeral _, hfloat, fun hbelow => ?_,
    fun hbeyond => ?_⟩
  · obtain ⟨negative, whole, fraction, hwritten, hpositional⟩ :=
      Decimal.floatText_of_isFinite (hfinite.mpr hbelow)
    rw [hwritten]
    exact ⟨_, TokenStream.next_ofText_signed source' hpositional negative⟩
  · have hinfinite : x.isFinite = false := by
      refine Bool.eq_false_iff.mpr fun hx => ?_
      exact absurd (hfinite.mp hx) (not_lt.mpr hbeyond)
    exact TokenStream.kind_next_ofText_word source'
      (Decimal.floatText_of_isFinite_eq_false hinfinite)

/-- The longest numeral of ` -.5)` is small, and the text `-0.5` of its float is one token, a float
again. -/
theorem rendered_float_is_read_back_of_half :
    (TokenStream.ofText "t" " -.5)".toList).next.1 =
        ⟨⟨"t", 1, 2⟩, .literal, .float (-Float.ofScientific 5 true 1)⟩ ∧
      (Value.float (-Float.ofScientific 5 true 1)).text = "-0.5".toList ∧
      (∃ numeral rest, IsLongestNumeral "-.5)".toList numeral rest ∧ IsFloat numeral ∧
        decimalMagnitude numeral < Decimal.overflow) ∧
      ∃ y, (TokenStream.ofText "u" "-0.5".toList).next =
        (⟨⟨"u", 1, 1⟩, .literal, .float y⟩, TokenStream.reading [] ⟨"u", 1, 5⟩) := by
  have htoken : (TokenStream.ofText "t" " -.5)".toList).next.1 =
      ⟨⟨"t", 1, 2⟩, .literal, .float (-Float.ofScientific 5 true 1)⟩ := rfl
  have htext : (Value.float (-Float.ofScientific 5 true 1)).text = "-0.5".toList := by
    decide +kernel
  obtain ⟨numeral, rest, hlongest, hfloat, hagain, -⟩ := rendered_float_is_read_back "t" "u" htoken
  have hnumeral : numeral = ['-', '.', '5'] :=
    hlongest.unique (Lexeme.numberSpelled_isLongestNumeral _)
  have hmagnitude : decimalMagnitude ['-', '.', '5'] = 5 / 10 := by
    have hdigits : Decimal.placeValue (['-', '.', '5'].filter Char.isDigit) = 5 := rfl
    have hplaces : (['-', '.', '5'].dropWhile (· != '.')).tail.length = 1 := rfl
    rw [decimalMagnitude, hdigits, hplaces, pow_one]
    rfl
  have hbelow : decimalMagnitude numeral < Decimal.overflow := by
    have hone : (1 : ℚ) ≤ Decimal.overflow := Nat.one_le_cast.mpr Decimal.overflow_pos
    rw [hnumeral, hmagnitude]
    linarith
  rw [htext] at hagain
  exact ⟨htoken, htext, ⟨numeral, rest, hlongest, hfloat, hbelow⟩, hagain hbelow⟩

/-- A one with 309 zeros is a float, and its text is a field. -/
theorem rendered_overflow_is_a_field :
    ∃ x, (TokenStream.ofText "t" ('1' :: List.replicate 309 '0' ++ ['.', '0'])).next.1 =
        ⟨⟨"t", 1, 1⟩, .literal, .float x⟩ ∧
      (Value.float x).text = "inf".toList ∧
      (TokenStream.ofText "t" "inf".toList).next.1 =
        ⟨⟨"t", 1, 1⟩, .field, .fieldName (FieldPath.parse "inf".toList)⟩ := by
  have hzeros : ∀ c ∈ '1' :: List.replicate 309 '0', c.isDigit = true := by
    intro c hc
    rcases List.mem_cons.mp hc with rfl | hc
    · rfl
    · rw [List.eq_of_mem_replicate hc]
      rfl
  have hpositional : Decimal.IsPositional ('1' :: List.replicate 309 '0') ['0'] :=
    ⟨List.cons_ne_nil _ _, List.cons_ne_nil _ _, hzeros, by simp⟩
  refine ⟨_, congrArg Prod.fst (TokenStream.next_ofText_signed "t" hpositional false), ?_, rfl⟩
  decide +kernel

end CallScript
