import CallScript.Proofs.Lexemes
import CallScript.Proofs.Utf8
import CallScript.Source.TokenStream

/-!
# The spelling of tokens

Every token that a printed script is made of has one spelling: names, fields and literals are
spelled by the canonical text of their values, the rest by fixed characters. A spelling read at
the beginning of a text gives its token back and leaves the text behind it, provided that a word
is followed by a character that cannot belong to it, and a comment by its line break.
-/

namespace CallScript

/-! ## Reading undoes writing -/

namespace Text

/-- A character that is written as it is neither ends the quoted text nor escapes. -/
theorem quoteChar_of_ne {c : Char} (hquote : c ≠ '\'') (hescape : c ≠ '\\') (hline : c ≠ '\n')
    (hreturn : c ≠ '\r') : quoteChar c = [c] := by
  unfold quoteChar
  split <;> first | contradiction | rfl

/-- Reading the written form of one character gives the character. -/
theorem readQuoted_quoteChar (c : Char) (rest : List Char) :
    readQuoted (quoteChar c ++ rest) = (readQuoted rest).map fun (text, taken, after) =>
      (c :: text, quoteChar c ++ taken, after) := by
  by_cases hquote : c = '\''
  · subst hquote
    rfl
  by_cases hescape : c = '\\'
  · subst hescape
    rfl
  by_cases hline : c = '\n'
  · subst hline
    rfl
  by_cases hreturn : c = '\r'
  · subst hreturn
    rfl
  rw [quoteChar_of_ne hquote hescape hline hreturn]
  exact readQuoted.eq_5 c rest hquote (fun h _ => hescape h) (fun _ _ h _ => hescape h)

/-- Reading a quoted text behind its opening quote gives the text and leaves what follows. -/
theorem readQuoted_quoted (text rest : List Char) :
    readQuoted (text.flatMap quoteChar ++ '\'' :: rest) =
      some (text, text.flatMap quoteChar ++ ['\''], rest) := by
  induction text with
  | nil => rfl
  | cons c text ih =>
    rw [List.flatMap_cons, List.append_assoc, readQuoted_quoteChar, ih]
    simp

/-- A text without the dividing character is one piece. -/
theorem splitAtEvery_of_notMem {sep : Char} {text : List Char} (h : sep ∉ text) :
    splitAtEvery sep text = [text] := by
  induction text with
  | nil => rfl
  | cons c text ih =>
    have hc : c ≠ sep := (List.ne_of_not_mem_cons h).symm
    rw [splitAtEvery, if_neg hc, ih (List.not_mem_of_not_mem_cons h)]

/-- A piece followed by the dividing character is the first piece. -/
theorem splitAtEvery_append_cons {sep : Char} {piece : List Char} (h : sep ∉ piece)
    (rest : List Char) : splitAtEvery sep (piece ++ sep :: rest) = piece :: splitAtEvery sep rest := by
  induction piece with
  | nil => simp [splitAtEvery]
  | cons c piece ih =>
    have hc : c ≠ sep := (List.ne_of_not_mem_cons h).symm
    rw [List.cons_append, splitAtEvery, if_neg hc, ih (List.not_mem_of_not_mem_cons h)]

/-- Dividing gives the pieces back if there are some and none holds the dividing character. -/
theorem splitAtEvery_joinWith {sep : Char} {pieces : List (List Char)} (hne : pieces ≠ [])
    (h : ∀ piece ∈ pieces, sep ∉ piece) : splitAtEvery sep (joinWith sep pieces) = pieces := by
  induction pieces with
  | nil => exact absurd rfl hne
  | cons piece pieces ih =>
    have hpiece : sep ∉ piece := h piece List.mem_cons_self
    cases pieces with
    | nil => exact splitAtEvery_of_notMem hpiece
    | cons next pieces =>
      have hrest := ih (by simp) fun p hp => h p (List.mem_cons_of_mem piece hp)
      rw [joinWith, splitAtEvery_append_cons hpiece, hrest]
      simp

end Text

/-- Parsing the written form of a path gives the path back. -/
theorem FieldPath.parse_text {path : FieldPath} (hne : path.segments ≠ [])
    (h : ∀ segment ∈ path.segments, '.' ∉ segment.toList) : parse path.text = path := by
  have hpieces : ∀ piece ∈ path.segments.map String.toList, '.' ∉ piece := by
    intro piece hpiece
    obtain ⟨segment, hsegment, rfl⟩ := List.mem_map.mp hpiece
    exact h segment hsegment
  have hsplit := Text.splitAtEvery_joinWith (by simpa using hne) hpieces
  rw [parse, text, hsplit, List.map_map]
  simp [Function.comp_def]

/-- Splitting at a boundary: the characters of the class are taken and the rest is left. -/
theorem takeWhile_dropWhile_append {p : Char → Bool} {word rest : List Char}
    (hword : ∀ c ∈ word, p c = true) (hrest : ∀ c ∈ rest.head?, p c = false) :
    (word ++ rest).takeWhile p = word ∧ (word ++ rest).dropWhile p = rest := by
  have hstop : rest.takeWhile p = [] ∧ rest.dropWhile p = rest := by
    cases rest with
    | nil => exact ⟨rfl, rfl⟩
    | cons c rest =>
      have hc : p c = false := hrest c rfl
      exact ⟨by simp [hc], by simp [hc]⟩
  rw [List.takeWhile_append_of_pos hword, List.dropWhile_append_of_pos hword, hstop.1, hstop.2,
    List.append_nil]
  exact ⟨rfl, rfl⟩

namespace Lexeme

/-- A character behind which a word ends. -/
def EndsWord (rest : List Char) : Prop :=
  ∀ c ∈ rest.head?, isNameChar c = false

/-- The digits of numbers are the ten digits of ASCII. -/
theorem toNat_of_isDigit {c : Char} (h : c.isDigit = true) : 48 ≤ c.toNat ∧ c.toNat ≤ 57 := by
  have hle : (decide ('0'.val ≤ c.val) && decide (c.val ≤ '9'.val)) = true := h
  simp only [Bool.and_eq_true, decide_eq_true_eq, UInt32.le_iff_toNat_le] at hle
  exact hle

/-- A digit is no letter. -/
theorem isAlphabetic_of_isDigit {c : Char} (h : c.isDigit = true) : Text.isAlphabetic c = false := by
  obtain ⟨hlow, hhigh⟩ := toNat_of_isDigit h
  rw [Text.isAlphabetic, if_pos (by omega)]
  change (decide ('A'.val ≤ c.val ∧ c.val ≤ 'Z'.val) ||
    (decide ('a'.val ≤ c.val) && decide (c.val ≤ 'z'.val))) = false
  simp only [Bool.or_eq_false_iff, Bool.and_eq_false_iff, decide_eq_false_iff_not,
    UInt32.le_iff_toNat_le]
  have hn : c.val.toNat = c.toNat := rfl
  have hA : 'A'.val.toNat = 65 := rfl
  have ha : 'a'.val.toNat = 97 := rfl
  omega

/-- The characters of a number may stand in a name, so what ends a name ends a number. -/
theorem isNumberChar_eq_false {c : Char} (h : isNameChar c = false) : isNumberChar c = false := by
  simp only [isNameChar, Text.isAlphanumeric, Bool.or_eq_false_iff] at h
  obtain ⟨⟨⟨⟨⟨-, hnumeric⟩, hpoint⟩, -⟩, -⟩, -⟩ := h
  cases hdigit : c.isDigit with
  | false => simp [isNumberChar, hdigit, hpoint]
  | true =>
    obtain ⟨hlow, hhigh⟩ := toNat_of_isDigit hdigit
    rw [Text.isNumeric, if_pos (by omega), hdigit] at hnumeric
    exact absurd hnumeric (by decide)

/-- A function name is read up to the end of the word. -/
theorem scan_function {name rest : List Char} (hne : name ≠ [])
    (hname : ∀ c ∈ name, isNameChar c = true) (hrest : EndsWord rest) :
    scan '@' (name ++ rest) = token .func (.funcName (String.ofList name)) ('@' :: name) rest := by
  obtain ⟨htake, hdrop⟩ := takeWhile_dropWhile_append hname hrest
  change func (name ++ rest) = _
  simp only [func, htake, hdrop, List.isEmpty_iff, hne, if_false]

/-- Characters of which only one belongs to a class are different. -/
theorem ne_of_class {p : Char → Bool} {c d : Char} (hc : p c = true) (hd : p d = false) :
    c ≠ d := by
  intro heq
  rw [heq, hd] at hc
  exact Bool.false_ne_true hc

/-- A letter begins no token but a field. -/
theorem scan_of_isAlphabetic {c : Char} (h : Text.isAlphabetic c = true) (rest : List Char) :
    scan c rest = field (c :: rest) := by
  have hne : ∀ d, Text.isAlphabetic d = false → c ≠ d := fun d hd => ne_of_class h hd
  have hdigit : c.isDigit = false := by
    cases hdigit : c.isDigit with
    | false => rfl
    | true => exact absurd rfl (hne c (isAlphabetic_of_isDigit hdigit))
  unfold scan
  rw [if_neg (hne _ rfl), if_neg (hne _ rfl), if_neg (hne _ rfl), if_neg (hne _ rfl),
    if_neg (hne _ rfl), if_neg (by simp [hdigit, hne '-' rfl]), if_neg (hne _ rfl),
    if_neg (hne _ rfl), if_neg (hne _ rfl), if_pos h]

/-- A field path is read up to the end of the word. -/
theorem scan_field {path : FieldPath} {c : Char} {tail rest : List Char}
    (hne : path.segments ≠ []) (hpoint : ∀ segment ∈ path.segments, '.' ∉ segment.toList)
    (htext : path.text = c :: tail) (hletter : Text.isAlphabetic c = true)
    (hname : ∀ d ∈ path.text, isNameChar d = true) (hrest : EndsWord rest) :
    scan c (tail ++ rest) = token .field (.fieldName path) path.text rest := by
  obtain ⟨htake, hdrop⟩ := takeWhile_dropWhile_append hname hrest
  have hcons : c :: (tail ++ rest) = path.text ++ rest := by rw [htext, List.cons_append]
  rw [scan_of_isAlphabetic hletter, hcons, field, htake, hdrop, FieldPath.parse_text hne hpoint]

/-- The digits of an integer are read back as the integer, down to the smallest one. -/
theorem integer_natText (n : Int64) :
    integer (n.toInt < 0) (Decimal.natText n.toInt.natAbs) = .ok (.int n) := by
  have hlow := n.le_toInt
  have hhigh := n.toInt_lt
  have hne : (Decimal.natText n.toInt.natAbs).isEmpty = false := by
    simpa using Decimal.natText_ne_nil n.toInt.natAbs
  unfold integer
  simp only [Decimal.readNat_natText, hne, Bool.false_eq_true, if_false, decide_eq_true_eq]
  by_cases hsign : n.toInt < 0
  · have hnat : -(n.toInt.natAbs : Int) = n.toInt := by omega
    rw [if_pos hsign, if_pos (by omega), hnat, Int64.ofInt_toInt]
  · have hnat : (n.toInt.natAbs : Int) = n.toInt := by omega
    rw [if_neg hsign, if_pos (by omega), hnat, Int64.ofInt_toInt]

/-- An integer is read up to a character that is neither a digit nor a point. -/
theorem number_intText (n : Int64) {rest : List Char}
    (hrest : ∀ c ∈ rest.head?, isNumberChar c = false) :
    number (Decimal.intText n.toInt ++ rest) =
      token .literal (.int n) (Decimal.intText n.toInt) rest := by
  have hdigits : ∀ c ∈ Decimal.natText n.toInt.natAbs, isNumberChar c = true := by
    intro c hc
    simp [isNumberChar, Decimal.isDigit_of_mem_natText hc]
  obtain ⟨htake, hdrop⟩ := takeWhile_dropWhile_append hdigits hrest
  have hpoints : (Decimal.natText n.toInt.natAbs).count '.' = 0 := by
    rw [List.count_eq_zero]
    intro hpoint
    exact absurd (Decimal.isDigit_of_mem_natText hpoint) (by decide)
  have hread := integer_natText n
  by_cases hsign : n.toInt < 0
  · have htext : Decimal.intText n.toInt = '-' :: Decimal.natText n.toInt.natAbs := if_pos hsign
    rw [decide_eq_true hsign] at hread
    simp [number, htext, htake, hdrop, hpoints, hread]
  · have htext : Decimal.intText n.toInt = Decimal.natText n.toInt.natAbs := if_neg hsign
    have hhead : ((Decimal.natText n.toInt.natAbs ++ rest).head? == some '-') = false := by
      rw [beq_eq_false_iff_ne]
      intro hminus
      cases hnat : Decimal.natText n.toInt.natAbs with
      | nil => exact Decimal.natText_ne_nil _ hnat
      | cons c digits =>
        have hc : c = '-' := by simpa [hnat] using hminus
        have hmem : '-' ∈ Decimal.natText n.toInt.natAbs := by simp [hnat, hc]
        exact absurd (Decimal.isDigit_of_mem_natText hmem) (by decide)
    rw [decide_eq_false hsign] at hread
    simp only [number, htext, hhead, Bool.false_eq_true, if_false, htake, hdrop, hpoints]
    simp [hread]

/-- A digit or a minus sign begins a number. -/
theorem scan_of_isDigit {c : Char} (h : c.isDigit || c == '-') (rest : List Char) :
    scan c rest = number (c :: rest) := by
  have hne : ∀ d, (d.isDigit || d == '-') = false → c ≠ d := by
    intro d hd
    exact ne_of_class (p := fun c => c.isDigit || c == '-') h hd
  unfold scan
  rw [if_neg (hne _ rfl), if_neg (hne _ rfl), if_neg (hne _ rfl), if_neg (hne _ rfl),
    if_neg (hne _ rfl), if_pos h]

/-- An integer begins with a digit or a minus sign. -/
theorem exists_intText_eq (n : Int) :
    ∃ c tail, Decimal.intText n = c :: tail ∧ (c.isDigit || c == '-') = true := by
  by_cases hsign : n < 0
  · exact ⟨'-', Decimal.natText n.natAbs, if_pos hsign, rfl⟩
  · have htext : Decimal.intText n = Decimal.natText n.natAbs := if_neg hsign
    obtain ⟨c, tail, hnat⟩ := List.exists_cons_of_ne_nil (Decimal.natText_ne_nil n.natAbs)
    have hdigit : c.isDigit = true := Decimal.isDigit_of_mem_natText (by rw [hnat]; simp)
    exact ⟨c, tail, htext.trans hnat, by simp [hdigit]⟩

/-- A string is read up to its closing quote, whatever follows. -/
theorem scan_string (s : String) (rest : List Char) :
    scan '\'' (s.toList.flatMap Text.quoteChar ++ '\'' :: rest) =
      token .literal (.string s) (Text.quote s.toList) rest := by
  change string _ = _
  rw [string, Text.readQuoted_quoted]
  simp [Text.quote]

/-- A balanced span is sliced in the same way whatever follows. -/
theorem sliceBraces_append {depth : Nat} {state : BraceState} {text taken after : List Char}
    (h : sliceBraces depth state text = some (taken, after)) (rest : List Char) :
    sliceBraces depth state (text ++ rest) = some (taken, after ++ rest) := by
  induction text generalizing depth state taken after with
  | nil => simp [sliceBraces] at h
  | cons c text ih =>
    rw [List.cons_append]
    rcases sliceBraces_cons depth state c with hend | ⟨depth', state', hmore⟩
    · rw [hend] at h ⊢
      obtain ⟨rfl, rfl⟩ := Prod.mk.inj (Option.some.inj h)
      rfl
    · rw [hmore] at h ⊢
      obtain ⟨⟨taken', after'⟩, hslice, heq⟩ := Option.map_eq_some_iff.mp h
      obtain ⟨rfl, rfl⟩ := Prod.mk.inj heq
      rw [ih hslice]
      rfl

/-- A JSON literal is read up to the brace that closes it, whatever follows. -/
theorem scan_json {body : List Char} (h : sliceBraces 0 .plain body = some (body, []))
    (rest : List Char) :
    scan '\x7b' (body ++ rest) =
      token .literal (.json (Text.Utf8.encode ('\x7b' :: body))) ('\x7b' :: body) rest := by
  change json _ = _
  rw [json, sliceBraces_append h rest, List.nil_append]

/-- A comment is read up to its line break, which it leaves. -/
theorem scan_comment {text : List Char} (h : '\n' ∉ text) (rest : List Char) :
    scan '#' (text ++ '\n' :: rest) =
      token .comment (.comment (String.ofList text)) ('#' :: text) ('\n' :: rest) := by
  have htext : ∀ c ∈ text, (c != '\n') = true := by
    intro c hc
    rw [bne_iff_ne]
    intro heq
    exact h (heq ▸ hc)
  have hrest : ∀ c ∈ ('\n' :: rest).head?, (c != '\n') = false := by simp
  obtain ⟨htake, hdrop⟩ := takeWhile_dropWhile_append htext hrest
  change comment _ = _
  simp only [comment, htake, hdrop]

/-- What begins a token is no blank. -/
theorem isBlank_eq_false_of_scan {c : Char} {tail taken rest : List Char} {kind : TokenKind}
    {value : Value} (h : scan c tail = token kind value taken rest) : isBlank c = false := by
  cases hblank : isBlank c with
  | false => rfl
  | true =>
    simp only [isBlank, Bool.or_eq_true, beq_iff_eq] at hblank
    rcases hblank with rfl | rfl
    · exact absurd (congrArg outcome h) nofun
    · exact absurd (congrArg outcome h) nofun

end Lexeme

/-! ## What a script is spelled with -/

/-- A function name that a script can write: some characters of names. -/
structure FunctionName where
  name : String
  ne_nil : name.toList ≠ []
  isNameChar_of_mem : ∀ c ∈ name.toList, Lexeme.isNameChar c = true

/-- A field that a script can write: parts without points, made of the characters of names, and
beginning with a letter. -/
structure FieldReference where
  path : FieldPath
  segments_ne_nil : path.segments ≠ []
  point_notMem : ∀ segment ∈ path.segments, '.' ∉ segment.toList
  isNameChar_of_mem : ∀ c ∈ path.text, Lexeme.isNameChar c = true
  isAlphabetic_head : ∃ c ∈ path.text.head?, Text.isAlphabetic c = true

/-- A JSON document that a script can write: what follows its first brace ends with the brace that
closes it. -/
structure JsonSpan where
  body : List Char
  sliceBraces_body : Lexeme.sliceBraces 0 .plain body = some (body, [])

/-- The bytes of the document. -/
def JsonSpan.raw (span : JsonSpan) : List UInt8 :=
  Text.Utf8.encode ('\x7b' :: span.body)

/-- A literal other than a float. -/
inductive Literal where
  | int (n : Int64)
  | string (s : String)
  | json (span : JsonSpan)

/-- The value of a literal. -/
def Literal.value : Literal → Value
  | .int n => .int n
  | .string s => .string s
  | .json span => .json span.raw

/-- The text of a comment, which is one line. -/
structure CommentText where
  text : String
  break_notMem : '\n' ∉ text.toList

/-- A token as a printed script writes it. -/
inductive Spelling where
  | function (name : FunctionName)
  | field (place : FieldReference)
  | literal (constant : Literal)
  | comment (line : CommentText)
  | openParen
  | closeParen
  | comma
  | lineBreak

namespace Spelling

/-- The kind of the token. -/
def kind : Spelling → TokenKind
  | .function _ => .func
  | .field _ => .field
  | .literal _ => .literal
  | .comment _ => .comment
  | .openParen => .openParen
  | .closeParen => .closeParen
  | .comma => .comma
  | .lineBreak => .eol

/-- The value of the token. -/
def value : Spelling → Value
  | .function name => .funcName name.name
  | .field place => .fieldName place.path
  | .literal constant => constant.value
  | .comment line => .comment line.text
  | .openParen => .string "("
  | .closeParen => .string ")"
  | .comma => .string ","
  | .lineBreak => .nil

/-- The characters of the token: the canonical text of a value that has one, else a mark. -/
def text : Spelling → List Char
  | .function name => (Value.funcName name.name).text
  | .field place => (Value.fieldName place.path).text
  | .literal constant => constant.value.text
  | .comment line => (Value.comment line.text).text
  | .openParen => ['(']
  | .closeParen => [')']
  | .comma => [',']
  | .lineBreak => ['\n']

/-- The characters behind the token do not run into it. -/
def Fits : Spelling → List Char → Prop
  | .function _, rest | .field _, rest | .literal _, rest => Lexeme.EndsWord rest
  | .comment _, rest => ∃ more, rest = '\n' :: more
  | _, _ => True

/-- The text begins with a character from which scanning gives the token and leaves the rest. -/
def ReadsBack (s : Spelling) (rest : List Char) : Prop :=
  ∃ c tail, s.text ++ rest = c :: tail ∧
    Lexeme.scan c tail = Lexeme.token s.kind s.value s.text rest

/-- A JSON document is spelled as it is. -/
theorem text_json (span : JsonSpan) :
    (Spelling.literal (.json span)).text = '\x7b' :: span.body :=
  Text.Utf8.decodeLossy_encode ('\x7b' :: span.body)

/-- A JSON document is read back whatever follows, since its last brace ends it. -/
theorem json_readsBack (span : JsonSpan) (rest : List Char) :
    (Spelling.literal (.json span)).ReadsBack rest := by
  refine ⟨'\x7b', span.body ++ rest, by rw [text_json, List.cons_append], ?_⟩
  rw [text_json]
  exact Lexeme.scan_json span.sliceBraces_body rest

/-- Every literal is read back. -/
theorem literal_readsBack (constant : Literal) {rest : List Char} (h : Lexeme.EndsWord rest) :
    (Spelling.literal constant).ReadsBack rest := by
  cases constant with
  | int n =>
    obtain ⟨c, tail, htext, hc⟩ := Lexeme.exists_intText_eq n.toInt
    have hcons : c :: (tail ++ rest) = Decimal.intText n.toInt ++ rest := by
      rw [htext, List.cons_append]
    refine ⟨c, tail ++ rest, hcons.symm, ?_⟩
    rw [Lexeme.scan_of_isDigit hc, hcons]
    exact Lexeme.number_intText n fun d hd => Lexeme.isNumberChar_eq_false (h d hd)
  | string s =>
    refine ⟨'\'', s.toList.flatMap Text.quoteChar ++ '\'' :: rest, ?_, Lexeme.scan_string s rest⟩
    change '\'' :: (s.toList.flatMap Text.quoteChar ++ ['\'']) ++ rest = _
    simp
  | json span => exact json_readsBack span rest

/-- Every token is read back from its spelling if what follows fits. -/
theorem readsBack (s : Spelling) {rest : List Char} (h : s.Fits rest) : s.ReadsBack rest := by
  cases s with
  | function name =>
    have hscan := Lexeme.scan_function name.ne_nil name.isNameChar_of_mem h
    rw [String.ofList_toList] at hscan
    exact ⟨'@', name.name.toList ++ rest, rfl, hscan⟩
  | field place =>
    obtain ⟨c, hc, hletter⟩ := place.isAlphabetic_head
    obtain ⟨tail, htext⟩ := List.head?_eq_some_iff.mp hc
    have hscan := Lexeme.scan_field place.segments_ne_nil place.point_notMem htext hletter
      place.isNameChar_of_mem h
    refine ⟨c, tail ++ rest, ?_, hscan⟩
    change place.path.text ++ rest = _
    rw [htext, List.cons_append]
  | literal constant => exact literal_readsBack constant h
  | comment line =>
    obtain ⟨more, rfl⟩ := h
    have hscan := Lexeme.scan_comment line.break_notMem more
    rw [String.ofList_toList] at hscan
    exact ⟨'#', line.text.toList ++ '\n' :: more, rfl, hscan⟩
  | openParen => exact ⟨'(', rest, rfl, rfl⟩
  | closeParen => exact ⟨')', rest, rfl, rfl⟩
  | comma => exact ⟨',', rest, rfl, rfl⟩
  | lineBreak => exact ⟨'\n', rest, rfl, rfl⟩

end Spelling

end CallScript
