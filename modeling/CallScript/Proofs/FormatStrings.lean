import CallScript.Proofs.Doubles
import CallScript.Proofs.GroundValues

/-!
# Formats and their pieces

A format is a row of pieces: ordinary characters, percent signs written twice, and verbs. The verbs
take the arguments in order, one each. Formatting succeeds exactly where a text is such a row with
an acceptable argument for each verb, and then puts their texts in the places of the verbs; in every
other case the text begins with such a row, and what comes next is the fault. A print of a format
writes all of the formatted text or nothing.
-/

namespace CallScript

/-- The values that have a whole number. -/
inductive Value.IsNumber : Value → Prop where
  | int (n : Int64) : IsNumber (.int n)
  | float (x : Float) : IsNumber (.float x)

/-- The whole number of a number, and zero for any other value. -/
def Value.wholeNumber : Value → ℤ
  | .int n => n.toInt
  | .float x => Decimal.wholeNumber x
  | _ => 0

namespace Standard

/-! ## Pieces -/

/-- The letter of a verb. -/
def Verb.letter : Verb → Char
  | .plain => 's'
  | .whole => 'd'
  | .canonical => 'v'

/-- What a verb writes for an argument. -/
def Verb.shown : Verb → Value → List Char
  | .plain, value => value.plainText.toList
  | .whole, value => Decimal.intText value.wholeNumber
  | .canonical, value => value.text

/-- The parts of a format. -/
inductive Piece where
  | char (c : Char) (ordinary : c ≠ '%')
  | percent
  | verb (v : Verb)

/-- How a part is written in a format. -/
def Piece.spelling : Piece → List Char
  | .char c _ => [c]
  | .percent => ['%', '%']
  | .verb v => ['%', v.letter]

/-- How a row of parts is written. -/
def spelling (pieces : List Piece) : List Char :=
  pieces.flatMap Piece.spelling

/-- The verb that a part is. -/
def Piece.verb? : Piece → Option Verb
  | .verb v => some v
  | _ => none

/-- The verbs of a format. -/
def verbs (pieces : List Piece) : List Verb :=
  pieces.filterMap Piece.verb?

/-- A row of parts with texts in the places of its verbs. -/
def fill : List Piece → List (List Char) → List Char
  | [], _ => []
  | .char c _ :: pieces, texts => c :: fill pieces texts
  | .percent :: pieces, texts => '%' :: fill pieces texts
  | .verb _ :: _, [] => []
  | .verb _ :: pieces, text :: texts => text ++ fill pieces texts

/-- The formatted text: each verb is replaced by what it writes for the argument of its number. -/
def written (pieces : List Piece) (arguments : List Value) : List Char :=
  fill pieces (List.zipWith Verb.shown (verbs pieces) arguments)

/-- Each verb has an argument of its number, and a number where it asks for one. -/
structure Fits (pieces : List Piece) (arguments : List Value) : Prop where
  enough : (verbs pieces).length ≤ arguments.length
  numbers : ∀ (i : Nat) (value : Value), (verbs pieces)[i]? = some .whole →
    arguments[i]? = some value → value.IsNumber

/-- The format is a row of pieces that fit, and the text is that row with its verbs replaced. -/
inductive Formatted : List Value → String → Prop where
  | intro {text out : String} {arguments : List Value} {pieces : List Piece}
      (split : text.toList = spelling pieces) (fits : Fits pieces arguments)
      (filled : out.toList = written pieces arguments) : Formatted (.string text :: arguments) out

/-- What is wrong with the part that a format begins with, where these arguments are left for it. -/
inductive Offends : List Char → List Value → Fault → Prop where
  | lone (arguments : List Value) : Offends ['%'] arguments .loneVerb
  | unknown {letter : Char} (single : letter ≠ '%') (strange : ∀ v : Verb, letter ≠ v.letter)
      (rest : List Char) (arguments : List Value) :
      Offends ('%' :: letter :: rest) arguments (.unknownVerb letter)
  | missing (v : Verb) (rest : List Char) :
      Offends ('%' :: v.letter :: rest) [] (.missingArgument v.letter)
  | notNumber {value : Value} (other : ¬ value.IsNumber) (rest : List Char)
      (arguments : List Value) :
      Offends ('%' :: Verb.whole.letter :: rest) (value :: arguments)
        (.verbExpectsNumber value.typeName)

/-- What is wrong with a format and its arguments: there is no format, or its leftmost part that
does not fit. -/
inductive Complaint : List Value → Fault → Prop where
  | missing : Complaint [] .missingFormat
  | notString {value : Value} (other : ∀ text, value ≠ .string text) (arguments : List Value) :
      Complaint (value :: arguments) (.formatNotString value.typeName)
  | piece {text : String} {arguments : List Value} {pieces : List Piece} {rest : List Char}
      {fault : Fault} (split : text.toList = spelling pieces ++ rest)
      (fits : Fits pieces arguments)
      (offends : Offends rest (arguments.drop (verbs pieces).length) fault) :
      Complaint (.string text :: arguments) fault

/-! ## One piece -/

/-- A letter is read as the verb that has it. -/
theorem Verb.ofLetter?_eq_some_iff {letter : Char} {v : Verb} :
    ofLetter? letter = some v ↔ letter = v.letter := by
  constructor
  · intro h
    unfold ofLetter? at h
    split at h <;> cases h <;> rfl
  · rintro rfl
    cases v <;> rfl

/-- A verb writes an argument that it accepts. -/
theorem Verb.apply_of_accepted {v : Verb} {value : Value} (h : v = .whole → value.IsNumber) :
    v.apply value = .ok (v.shown value) := by
  cases v with
  | plain => rfl
  | canonical => rfl
  | whole =>
    cases h rfl with
    | int n => rfl
    | float x => exact congrArg (Except.ok ∘ Decimal.intText) (Decimal.toInt_truncate x)

/-- A verb that asks for a number refuses any other value. -/
theorem Verb.apply_of_refused {value : Value} (h : ¬ value.IsNumber) :
    Verb.whole.apply value = .error (.verbExpectsNumber value.typeName) := by
  cases value with
  | int n => exact absurd (.int n) h
  | float x => exact absurd (.float x) h
  | _ => rfl

theorem formatText_char {c : Char} (h : c ≠ '%') (rest : List Char) (arguments : List Value) :
    formatText (c :: rest) arguments = (formatText rest arguments).map (c :: ·) := by
  rw [formatText]
  · exact fun hc => absurd hc h
  · exact fun _ hc => absurd hc h
  · exact fun _ _ hc => absurd hc h

theorem formatText_verb (v : Verb) (rest : List Char) (value : Value) (arguments : List Value) :
    formatText ('%' :: v.letter :: rest) (value :: arguments) =
      (v.apply value).bind fun piece => (formatText rest arguments).map (piece ++ ·) := by
  cases v <;> rfl

/-- A format that begins with a fault fails with it. -/
theorem Offends.formatText_eq {chars : List Char} {arguments : List Value} {fault : Fault}
    (h : Offends chars arguments fault) : formatText chars arguments = .error fault := by
  cases h with
  | lone => rfl
  | unknown single strange rest =>
    rw [formatText]
    · exact single
    · exact Option.eq_none_iff_forall_ne_some.mpr fun v hv =>
        strange v (Verb.ofLetter?_eq_some_iff.mp hv)
  | missing v rest => cases v <;> rfl
  | notNumber other rest arguments =>
    rw [formatText_verb, Verb.apply_of_refused other]
    rfl

/-! ## Rows of pieces -/

/-- No verbs leave all arguments, and ask for none. -/
theorem fits_nil (arguments : List Value) : Fits [] arguments :=
  ⟨Nat.zero_le _, nofun⟩

/-- A part that is no verb takes no argument. -/
theorem fits_cons_iff {piece : Piece} (hpiece : piece.verb? = none) {pieces : List Piece}
    {arguments : List Value} : Fits (piece :: pieces) arguments ↔ Fits pieces arguments := by
  have hverbs : verbs (piece :: pieces) = verbs pieces := List.filterMap_cons_none hpiece
  constructor
  · exact fun h => ⟨hverbs ▸ h.enough, hverbs ▸ h.numbers⟩
  · exact fun h => ⟨hverbs.symm ▸ h.enough, hverbs.symm ▸ h.numbers⟩

/-- The first argument is for the first verb, and the others are for the rest. -/
theorem fits_verb_cons_iff {v : Verb} {pieces : List Piece} {value : Value}
    {arguments : List Value} :
    Fits (.verb v :: pieces) (value :: arguments) ↔
      (v = .whole → value.IsNumber) ∧ Fits pieces arguments := by
  have hverbs : verbs (.verb v :: pieces) = v :: verbs pieces := rfl
  constructor
  · intro h
    have henough := h.enough
    have hnumbers := h.numbers
    rw [hverbs] at henough hnumbers
    refine ⟨fun hv => hnumbers 0 value (congrArg some hv) rfl, Nat.le_of_succ_le_succ henough, ?_⟩
    exact fun i => hnumbers (i + 1)
  · intro ⟨hvalue, h⟩
    refine ⟨Nat.succ_le_succ h.enough, ?_⟩
    intro i other hverb hother
    cases i with
    | zero =>
      cases hother
      exact hvalue (Option.some.inj hverb)
    | succ i => exact h.numbers i other hverb hother

/-- Texts are put in front one after the other or at once. -/
theorem map_append_map (result : Except Fault (List Char)) (front text : List Char) :
    (result.map (text ++ ·)).map (front ++ ·) = result.map (front ++ text ++ ·) := by
  cases result with
  | error fault => rfl
  | ok rest => exact congrArg Except.ok (List.append_assoc front text rest).symm

/-- A row of pieces that fit is written out, and formatting goes on behind it with the arguments
that it leaves. -/
theorem Fits.formatText_append {pieces : List Piece} {arguments : List Value}
    (h : Fits pieces arguments) (rest : List Char) :
    formatText (spelling pieces ++ rest) arguments =
      (formatText rest (arguments.drop (verbs pieces).length)).map
        (written pieces arguments ++ ·) := by
  induction pieces generalizing arguments with
  | nil => exact (id_map (formatText rest arguments)).symm
  | cons piece pieces ih =>
    cases piece with
    | char c ordinary =>
      have hpieces := (fits_cons_iff rfl).mp h
      change formatText (c :: (spelling pieces ++ rest)) arguments = _
      rw [formatText_char ordinary, ih hpieces]
      exact map_append_map _ [c] _
    | percent =>
      have hpieces := (fits_cons_iff rfl).mp h
      change (formatText (spelling pieces ++ rest) arguments).map ('%' :: ·) = _
      rw [ih hpieces]
      exact map_append_map _ ['%'] _
    | verb v =>
      cases arguments with
      | nil => exact absurd h.enough (Nat.not_succ_le_zero _)
      | cons value arguments =>
        obtain ⟨hvalue, hpieces⟩ := fits_verb_cons_iff.mp h
        change formatText ('%' :: v.letter :: (spelling pieces ++ rest)) _ = _
        rw [formatText_verb, Verb.apply_of_accepted hvalue, ih hpieces]
        exact map_append_map _ (v.shown value) _

/-- Every text is a row of pieces that fit, up to its end or to a fault. -/
theorem exists_fits_append (chars : List Char) (arguments : List Value) :
    ∃ pieces rest, chars = spelling pieces ++ rest ∧ Fits pieces arguments ∧
      (rest = [] ∨ ∃ fault, Offends rest (arguments.drop (verbs pieces).length) fault) := by
  fun_induction formatText chars arguments with
  | case1 arguments => exact ⟨[], [], rfl, fits_nil arguments, .inl rfl⟩
  | case2 arguments => exact ⟨[], ['%'], rfl, fits_nil arguments, .inr ⟨_, .lone arguments⟩⟩
  | case3 arguments rest ih =>
    obtain ⟨pieces, rest, rfl, hfits, hrest⟩ := ih
    exact ⟨.percent :: pieces, rest, rfl, (fits_cons_iff rfl).mpr hfits, hrest⟩
  | case4 letter rest arguments hsingle hnone =>
    have hstrange : ∀ v : Verb, letter ≠ v.letter := by
      intro v hletter
      rw [Verb.ofLetter?_eq_some_iff.mpr hletter] at hnone
      cases hnone
    exact ⟨[], _, rfl, fits_nil arguments, .inr ⟨_, .unknown hsingle hstrange rest arguments⟩⟩
  | case5 letter rest hsingle v hletter =>
    obtain rfl := Verb.ofLetter?_eq_some_iff.mp hletter
    exact ⟨[], _, rfl, fits_nil [], .inr ⟨_, .missing v rest⟩⟩
  | case6 letter rest hsingle v value arguments hletter ih =>
    obtain rfl := Verb.ofLetter?_eq_some_iff.mp hletter
    -- the row goes on behind a verb that accepts its argument, and is empty before one that does not
    by_cases haccepted : v = .whole → value.IsNumber
    · obtain ⟨pieces, rest, rfl, hfits, hrest⟩ := ih
      exact ⟨.verb v :: pieces, rest, rfl, fits_verb_cons_iff.mpr ⟨haccepted, hfits⟩, hrest⟩
    · obtain ⟨rfl, hother⟩ := Classical.not_imp.mp haccepted
      exact ⟨[], _, rfl, fits_nil _, .inr ⟨_, .notNumber hother rest arguments⟩⟩
  | case7 c rest arguments hend hpercent hverb ih =>
    have hordinary : c ≠ '%' := by
      intro hc
      cases rest with
      | nil => exact hend hc rfl
      | cons letter rest => exact hverb letter rest hc rfl
    obtain ⟨pieces, rest, rfl, hfits, hrest⟩ := ih
    exact ⟨.char c hordinary :: pieces, rest, rfl, (fits_cons_iff rfl).mpr hfits, hrest⟩

/-! ## Whole formats -/

theorem Formatted.format_eq {values : List Value} {out : String} (h : Formatted values out) :
    format values = .ok out := by
  obtain ⟨split, fits, filled⟩ := h
  have hrun := fits.formatText_append []
  rw [List.append_nil, ← split] at hrun
  rw [format, hrun, ← filled]
  exact congrArg Except.ok (by simp)

theorem Complaint.format_eq {values : List Value} {fault : Fault} (h : Complaint values fault) :
    format values = .error fault := by
  cases h with
  | missing => rfl
  | notString other =>
    rw [format]
    exact other
  | piece split fits offends =>
    rw [format, split, fits.formatText_append, offends.formatText_eq]
    rfl

/-- Every format is followed, or there is something to complain of. -/
theorem formatted_or_complaint (values : List Value) :
    (∃ out, Formatted values out) ∨ ∃ fault, Complaint values fault := by
  cases values with
  | nil => exact .inr ⟨_, .missing⟩
  | cons value arguments =>
    by_cases hstring : ∃ text, value = .string text
    · obtain ⟨text, rfl⟩ := hstring
      obtain ⟨pieces, rest, hsplit, hfits, rfl | ⟨fault, hoffends⟩⟩ :=
        exists_fits_append text.toList arguments
      · rw [List.append_nil] at hsplit
        exact .inl ⟨_, .intro hsplit hfits String.toList_ofList⟩
      · exact .inr ⟨fault, .piece hsplit hfits hoffends⟩
    · exact .inr ⟨_, .notString (not_exists.mp hstring) arguments⟩

end Standard

/-! ## Calls -/

section Calls

variable {F : Type}

/-- Resolving an argument prints nothing. -/
theorem Session.output_resolve (s : Session F) (value : Value) :
    (s.resolve value).2.output = s.output := by
  unfold resolve
  split
  · next field =>
    unfold resolveField
    split
    · rfl
    · rw [output, record, List.filterMap_append]
      exact congrArg String.join (List.append_nil _)
  · rfl

theorem Session.output_resolveAll (s : Session F) (arguments : List Value) :
    (s.resolveAll arguments).2.output = s.output := by
  induction arguments generalizing s with
  | nil => rfl
  | cons value arguments ih => exact (ih _).trans (s.output_resolve value)

/-- What is printed comes behind what was printed before. -/
theorem Session.output_record_printed (s : Session F) (text : String) :
    (s.record (.printed text)).output = s.output ++ text := by
  rw [output, record, List.filterMap_append, String.join_append]
  exact congrArg (s.output ++ ·) (by simp)

end Calls

namespace StandardFunction

open Standard

variable {F : Type}

/-- The output of a call of a function other than `get` and `set` is what it prints in reply. -/
theorem output_apply_of_ne {function : StandardFunction} (hget : function ≠ .get)
    (hset : function ≠ .set) (arguments : List Value) (s : Session F) :
    (function.apply arguments s).2.output =
      s.output ++ (function.reply (s.resolveAll arguments).1).printed.getD "" := by
  rw [← s.output_resolveAll arguments]
  unfold apply
  split
  · exact absurd rfl hget
  · exact absurd rfl hset
  · dsimp only
    split
    · next text hprinted =>
      rw [hprinted, Session.output_record_printed]
      rfl
    · next hprinted =>
      rw [hprinted]
      exact (String.append_empty).symm

/-- A format that is followed is returned by `sprintf` and printed by `printf`. -/
theorem reply_of_formatted {values : List Value} {out : String} (h : Formatted values out) :
    sprintf.reply values = { value := .string out } ∧
      printf.reply values = { printed := some out } := by
  simp only [reply, h.format_eq]
  exact ⟨rfl, trivial⟩

/-- A format that is not followed is an error of both, and nothing is printed. -/
theorem reply_of_complaint {values : List Value} {fault : Fault} (h : Complaint values fault) :
    sprintf.reply values = { value := .error ("@sprintf: " ++ fault.message) } ∧
      printf.reply values = { value := .error ("@sprintf: " ++ fault.message) } := by
  simp only [reply, h.format_eq]
  exact ⟨rfl, rfl⟩

/-- `sprintf` returns texts where it follows a format, and nowhere else. -/
theorem reply_sprintf_eq_string_iff {values : List Value} {out : String} :
    (sprintf.reply values).value = .string out ↔ Formatted values out := by
  constructor
  · intro hvalue
    rcases formatted_or_complaint values with ⟨text, h⟩ | ⟨fault, h⟩
    · rw [(reply_of_formatted h).1] at hvalue
      exact Value.string.inj hvalue ▸ h
    · rw [(reply_of_complaint h).1] at hvalue
      cases hvalue
  · intro h
    rw [(reply_of_formatted h).1]

/-- `sprintf` returns errors where there is something to complain of, and nowhere else. -/
theorem reply_sprintf_eq_error_iff {values : List Value} {message : String} :
    (sprintf.reply values).value = .error message ↔
      ∃ fault, Complaint values fault ∧ message = "@sprintf: " ++ fault.message := by
  constructor
  · intro hvalue
    rcases formatted_or_complaint values with ⟨text, h⟩ | ⟨fault, h⟩
    · rw [(reply_of_formatted h).1] at hvalue
      cases hvalue
    · rw [(reply_of_complaint h).1] at hvalue
      exact ⟨fault, h, (Value.error.inj hvalue).symm⟩
  · rintro ⟨fault, h, rfl⟩
    rw [(reply_of_complaint h).1]

/-- A call of `printf` returns nothing and prints the text where it follows a format. -/
theorem apply_printf_of_formatted {arguments : List Value} {s : Session F} {out : String}
    (h : Formatted (s.resolveAll arguments).1 out) :
    (printf.apply arguments s).1 = .nil ∧
      (printf.apply arguments s).2.output = s.output ++ out := by
  rw [fst_apply_of_ne (by decide) (by decide), output_apply_of_ne (by decide) (by decide),
    (reply_of_formatted h).2]
  exact ⟨rfl, rfl⟩

/-- A call of `printf` returns an error and prints nothing where it does not follow a format. -/
theorem apply_printf_of_complaint {arguments : List Value} {s : Session F} {fault : Fault}
    (h : Complaint (s.resolveAll arguments).1 fault) :
    (printf.apply arguments s).1 = .error ("@sprintf: " ++ fault.message) ∧
      (printf.apply arguments s).2.output = s.output := by
  rw [fst_apply_of_ne (by decide) (by decide), output_apply_of_ne (by decide) (by decide),
    (reply_of_complaint h).2]
  exact ⟨rfl, String.append_empty⟩

/-- Formats are followed exactly. `sprintf` returns a text exactly if its first argument is a string
that is a row of pieces, with an argument for each verb in order and a number for each `%d`, and the
text is that row with its verbs replaced; in every other case it returns the error of a missing
format, of one that is no string, or of its leftmost piece that does not fit. With the same
arguments `printf` prints that text and returns nothing, or prints nothing and returns that
error. -/
theorem formats_followed_exactly (values : List Value) :
    let formatted := (sprintf.reply values).value
    (∀ out, formatted = .string out ↔ Formatted values out) ∧
    (∀ message, formatted = .error message ↔
      ∃ fault, Complaint values fault ∧ message = "@sprintf: " ++ fault.message) ∧
    ((∃ out, formatted = .string out) ∨ ∃ message, formatted = .error message) ∧
    ∀ (s : Session F) (arguments : List Value), (s.resolveAll arguments).1 = values →
      (sprintf.apply arguments s).1 = formatted ∧
      (sprintf.apply arguments s).2.output = s.output ∧
      (∀ out, formatted = .string out →
        (printf.apply arguments s).1 = .nil ∧
        (printf.apply arguments s).2.output = s.output ++ out) ∧
      (∀ message, formatted = .error message →
        (printf.apply arguments s).1 = .error message ∧
        (printf.apply arguments s).2.output = s.output) := by
  intro formatted
  refine ⟨fun out => reply_sprintf_eq_string_iff, fun message => reply_sprintf_eq_error_iff, ?_, ?_⟩
  · rcases formatted_or_complaint values with ⟨out, h⟩ | ⟨fault, h⟩
    · exact .inl ⟨out, reply_sprintf_eq_string_iff.mpr h⟩
    · exact .inr ⟨_, reply_sprintf_eq_error_iff.mpr ⟨fault, h, rfl⟩⟩
  · rintro s arguments rfl
    refine ⟨fst_apply_of_ne (by decide) (by decide) arguments s, ?_, ?_, ?_⟩
    · rw [output_apply_of_ne (by decide) (by decide)]
      exact String.append_empty
    · intro out hout
      exact apply_printf_of_formatted (reply_sprintf_eq_string_iff.mp hout)
    · intro message hmessage
      obtain ⟨fault, h, rfl⟩ := reply_sprintf_eq_error_iff.mp hmessage
      exact apply_printf_of_complaint h

/-- A format with all kinds of pieces is followed, also where an argument looks like a verb; a
letter that is no verb is the fault even though the format ends with another one. -/
theorem formats_followed_exactly_in_turn :
    let s : Session StandardFunction := { env := environment }
    let arguments := [Value.string "%s:%d%%%v", .string "%d", .float (-2.75), .string "x", .nil]
    let wrong := [Value.string "%s%z%", .string "a"]
    let out := "%d:-2%'x'"
    Formatted arguments out ∧ (printf.apply arguments s).1 = .nil ∧
    (printf.apply arguments s).2.output = s.output ++ out ∧
    (∃ fault, Complaint wrong fault ∧ "@sprintf: unknown verb %z" = "@sprintf: " ++ fault.message) ∧
    (printf.apply wrong s).2.output = s.output := by
  intro s arguments wrong out
  have hout : (sprintf.reply arguments).value = .string out := rfl
  have hwrong : (sprintf.reply wrong).value = .error "@sprintf: unknown verb %z" := rfl
  obtain ⟨hstring, -, -, hcalls⟩ := formats_followed_exactly (F := StandardFunction) arguments
  obtain ⟨-, herror, -, hwrongCalls⟩ := formats_followed_exactly (F := StandardFunction) wrong
  obtain ⟨-, -, hprinted, -⟩ := hcalls s arguments rfl
  obtain ⟨-, -, -, hcomplained⟩ := hwrongCalls s wrong rfl
  obtain ⟨hnil, houtput⟩ := hprinted out hout
  exact ⟨(hstring out).mp hout, hnil, houtput, (herror _).mp hwrong, (hcomplained _ hwrong).2⟩

end StandardFunction

end CallScript
