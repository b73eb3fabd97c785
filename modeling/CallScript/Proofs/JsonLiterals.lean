import CallScript.Proofs.JsonBraces
import CallScript.Proofs.Reconstruction

/-!
# JSON literals

A script holds JSON documents as they are: the slicer cuts them out by their braces, and only later
are they read. The two agree. An object that can be read is cut out whole, whatever follows it in
the script, so that handing it to the function that reads documents gives what it stands for.

The slicer works on characters and the reader on bytes. Nothing is lost between the two, since all
marks of the slicer are characters of one byte, and no byte of a longer character is a mark.
-/

namespace CallScript

/-! ## Marks in characters and bytes -/

namespace BraceMark

/-- The mark of a character. -/
def ofChar (c : Char) : BraceMark :=
  if c = '\x7b' then .opening
  else if c = '\x7d' then .closing
  else if c = '"' then .quote
  else if c = '\\' then .backslash
  else .other

/-- A character of one byte is the character of that byte. -/
theorem ofNat_eq_byte_iff {c d : Char} (hc : c.toNat ≤ 0x7f) (hd : d.toNat ≤ 0x7f) :
    UInt8.ofNat c.toNat = Json.byte d ↔ c = d := by
  have hbyte : (UInt8.ofNat c.toNat).toNat = c.toNat := Text.Utf8.toNat_byte (by omega)
  have hbyte' : (UInt8.ofNat d.toNat).toNat = d.toNat := Text.Utf8.toNat_byte (by omega)
  have hcode : Json.byte d = UInt8.ofNat d.toNat := rfl
  rw [hcode, ← UInt8.toNat_inj, hbyte, hbyte', Char.toNat_inj]

/-- The byte of a character of one byte has the mark of the character. -/
theorem ofByte_of_ascii {c : Char} (h : c.toNat ≤ 0x7f) :
    ofByte (UInt8.ofNat c.toNat) = ofChar c := by
  unfold ofByte ofChar
  simp only [ofNat_eq_byte_iff h (show '\x7b'.toNat ≤ 0x7f by decide),
    ofNat_eq_byte_iff h (show '\x7d'.toNat ≤ 0x7f by decide),
    ofNat_eq_byte_iff h (show '"'.toNat ≤ 0x7f by decide),
    ofNat_eq_byte_iff h (show '\\'.toNat ≤ 0x7f by decide)]

/-- No mark is a byte of a longer character. -/
theorem ofByte_of_le {b : UInt8} (h : 0x80 ≤ b.toNat) : ofByte b = .other :=
  ofByte_of_class (fun b => 0x80 ≤ b.toNat) (by simpa using h) rfl

/-- No mark is a longer character. -/
theorem ofChar_of_lt {c : Char} (h : 0x7f < c.toNat) : ofChar c = .other := by
  have hne : ∀ d : Char, d.toNat ≤ 0x7f → c ≠ d := by
    intro d hd heq
    rw [heq] at h
    omega
  unfold ofChar
  rw [if_neg (hne _ (by decide)), if_neg (hne _ (by decide)), if_neg (hne _ (by decide)),
    if_neg (hne _ (by decide))]

end BraceMark

/-- The bytes of a longer character are no characters of one byte. -/
theorem Text.Utf8.exists_codes_utf8EncodeChar {c : Char} (h : 0x7f < c.toNat) :
    ∃ codes : List Nat, String.utf8EncodeChar c = codes.map UInt8.ofNat ∧
      ∀ n ∈ codes, 0x80 ≤ n ∧ n < 256 := by
  have hval : c.val.toNat = c.toNat := rfl
  simp only [String.utf8EncodeChar, hval]
  rw [if_neg (by omega)]
  split
  · refine ⟨[_, _], rfl, ?_⟩
    simp only [List.forall_mem_cons, List.not_mem_nil, false_implies, implies_true, and_true]
    omega
  · split
    · refine ⟨[_, _, _], rfl, ?_⟩
      simp only [List.forall_mem_cons, List.not_mem_nil, false_implies, implies_true, and_true]
      omega
    · refine ⟨[_, _, _, _], rfl, ?_⟩
      simp only [List.forall_mem_cons, List.not_mem_nil, false_implies, implies_true, and_true]
      omega

/-- A longer character has no marks among its bytes. -/
theorem BraceMark.ofByte_of_mem_utf8EncodeChar {c : Char} (h : 0x7f < c.toNat) {b : UInt8}
    (hb : b ∈ String.utf8EncodeChar c) : ofByte b = .other := by
  obtain ⟨codes, hcodes, hbounds⟩ := Text.Utf8.exists_codes_utf8EncodeChar h
  rw [hcodes] at hb
  obtain ⟨n, hn, rfl⟩ := List.mem_map.mp hb
  obtain ⟨hlow, hhigh⟩ := hbounds n hn
  refine ofByte_of_le ?_
  rw [Text.Utf8.toNat_byte hhigh]
  exact hlow

namespace BraceScan

/-- Whatever has no mark leads out of an escape. -/
theorem exists_step_other (s : BraceScan) : ∃ t, s.step .other = some t ∧ t.state ≠ .escaped := by
  obtain ⟨depth, state⟩ := s
  cases state with
  | plain => exact ⟨_, rfl, by simp⟩
  | quoted => exact ⟨_, rfl, by simp⟩
  | escaped => exact ⟨_, rfl, by simp⟩

/-- Several bytes without marks are passed like one. -/
theorem pass_eq_step_other (s : BraceScan) {marks : List BraceMark} (hne : marks ≠ [])
    (h : ∀ m ∈ marks, m = .other) : s.pass marks = s.step .other := by
  obtain ⟨m, marks, rfl⟩ := List.exists_cons_of_ne_nil hne
  obtain ⟨rfl, hmarks⟩ := List.forall_mem_cons.mp h
  obtain ⟨t, hstep, ht⟩ := s.exists_step_other
  rw [pass, List.foldlM_cons, hstep]
  exact pass_others ht hmarks

/-- The bytes of a character are passed like the character. -/
theorem pass_utf8EncodeChar (s : BraceScan) (c : Char) :
    s.pass ((String.utf8EncodeChar c).map .ofByte) = s.step (.ofChar c) := by
  by_cases hascii : c.toNat ≤ 0x7f
  · have hval : c.val.toNat = c.toNat := rfl
    have hbytes : String.utf8EncodeChar c = [UInt8.ofNat c.toNat] := by
      simp only [String.utf8EncodeChar, hval]
      rw [if_pos hascii]
    rw [hbytes, ← BraceMark.ofByte_of_ascii hascii, List.map_singleton, pass, List.foldlM_cons]
    exact bind_pure _
  · have hlong : 0x7f < c.toNat := by omega
    rw [BraceMark.ofChar_of_lt hlong]
    refine s.pass_eq_step_other (by simp) (List.forall_mem_map.mpr ?_)
    exact fun b hb => BraceMark.ofByte_of_mem_utf8EncodeChar hlong hb

/-- The bytes of a text are passed like the text. -/
theorem pass_encode (s : BraceScan) (text : List Char) :
    s.pass ((Text.Utf8.encode text).map .ofByte) = s.pass (text.map .ofChar) := by
  induction text generalizing s with
  | nil => rfl
  | cons c text ih =>
    have hcons : Text.Utf8.encode (c :: text) =
        String.utf8EncodeChar c ++ Text.Utf8.encode text := by simp [Text.Utf8.encode]
    rw [hcons, List.map_append, pass_append, pass_utf8EncodeChar, List.map_cons, pass,
      List.foldlM_cons]
    refine congrArg _ (funext fun t => ih t)

end BraceScan

/-! ## Slicing is passing -/

namespace Lexeme

/-- As long as the machine goes on, the slicer does. -/
theorem sliceBraces_cons_of_step {s t : BraceScan} {c : Char}
    (h : s.step (.ofChar c) = some t) (text : List Char) :
    sliceBraces s.depth s.state (c :: text) =
      (sliceBraces t.depth t.state text).map fun (taken, rest) => (c :: taken, rest) := by
  obtain ⟨depth, state⟩ := s
  by_cases hopen : c = '\x7b'
  · subst hopen
    cases state <;> cases h <;> rfl
  by_cases hclose : c = '\x7d'
  · subst hclose
    -- outside of quotes the machine goes on only if more than one brace is open
    cases state with
    | plain =>
      cases depth with
      | zero => cases h
      | succ depth =>
        cases h
        rfl
    | quoted =>
      cases h
      rfl
    | escaped =>
      cases h
      rfl
  by_cases hquote : c = '"'
  · subst hquote
    cases state <;> cases h <;> rfl
  by_cases hbackslash : c = '\\'
  · subst hbackslash
    cases state <;> cases h <;> rfl
  rw [BraceMark.ofChar, if_neg hopen, if_neg hclose, if_neg hquote, if_neg hbackslash] at h
  cases state with
  | plain =>
    cases h
    simp only [sliceBraces, if_neg hopen, if_neg hclose, if_neg hquote]
  | quoted =>
    cases h
    simp only [sliceBraces, if_neg hquote, if_neg hbackslash]
  | escaped =>
    cases h
    rfl

/-- A text that leads the machine up to the closing brace is sliced out with that brace. -/
theorem sliceBraces_of_pass {s : BraceScan} {text : List Char}
    (h : s.pass (text.map .ofChar) = some (.outside 0)) (rest : List Char) :
    sliceBraces s.depth s.state (text ++ '\x7d' :: rest) = some (text ++ ['\x7d'], rest) := by
  induction text generalizing s with
  | nil =>
    obtain rfl := Option.some.inj h
    rfl
  | cons c text ih =>
    rw [List.map_cons, BraceScan.pass, List.foldlM_cons] at h
    obtain ⟨t, hstep, hpass⟩ := Option.bind_eq_some_iff.mp h
    rw [List.cons_append, sliceBraces_cons_of_step hstep, ih hpass]
    rfl

end Lexeme

/-! ## Objects are sliced whole -/

/-- A value that begins with a brace is an object, and its members are read behind the brace. -/
theorem Json.exists_members_of_readValue {depth : Nat} {input rest : List UInt8} {json : Json}
    (h : readValue (depth + 1) (byte '\x7b' :: input) = .ok (json, rest)) :
    ∃ members, json = .object members ∧
      readMembers (readValue depth) (input.length + 1) true [] input = .ok (members, rest) := by
  have hobject : (if depth = 0 then Except.error (.next .tooDeep (byte '\x7b' :: input)) else
      (readMembers (readValue depth) (input.length + 1) true [] input).map
        fun read => (Json.object read.1, read.2)) = .ok (json, rest) := h
  split at hobject
  · cases hobject
  · obtain ⟨⟨members, rest'⟩, hmembers, heq⟩ := exists_of_map_eq_ok hobject
    obtain ⟨rfl, rfl⟩ := Prod.mk.inj heq
    exact ⟨members, rfl, hmembers⟩

/-- A document is read up to whitespace. -/
theorem Json.exists_readValue_of_decode {input : List UInt8} {json : Json}
    (h : decode input = .ok json) :
    ∃ rest, readValue 128 input = .ok (json, rest) ∧ ∀ b ∈ rest, isSpace b = true := by
  unfold decode at h
  obtain ⟨⟨json', rest⟩, hvalue, h⟩ := exists_of_bind_eq_ok h
  dsimp only at h
  split at h
  · next hskip =>
    cases h
    have hspaces : rest.takeWhile isSpace ++ rest.dropWhile isSpace = rest :=
      List.takeWhile_append_dropWhile
    rw [skipSpace] at hskip
    rw [hskip, List.append_nil] at hspaces
    exact ⟨rest, hvalue, List.all_eq_true.mp (hspaces ▸ List.all_takeWhile)⟩
  · cases h

/-- Whitespace behind which a brace still comes is no whitespace at all. -/
theorem Json.eq_nil_of_append_cons {taken rest front : List UInt8}
    (hspace : ∀ b ∈ rest, isSpace b = true)
    (h : front ++ [byte '\x7d'] = taken ++ byte '\x7d' :: rest) : rest = [] := by
  cases hrest : rest.getLast? with
  | none => exact List.getLast?_eq_none_iff.mp hrest
  | some b =>
    have hlast := congrArg List.getLast? h
    rw [List.getLast?_concat, List.getLast?_append, List.getLast?_cons, hrest] at hlast
    obtain rfl : byte '\x7d' = b := Option.some.inj hlast
    have hmem := List.mem_of_getLast? hrest
    exact absurd (hspace _ hmem) (by decide)

/-- A text between two braces. -/
theorem exists_between_braces {text : List Char} (hfirst : text.head? = some '\x7b')
    (hlast : text.getLast? = some '\x7d') : ∃ body, text = '\x7b' :: (body ++ ['\x7d']) := by
  obtain ⟨tail, rfl⟩ := List.head?_eq_some_iff.mp hfirst
  have hne : tail ≠ [] := by
    rintro rfl
    exact absurd (Option.some.inj hlast) (by decide)
  rw [List.getLast?_cons_of_ne_nil hne] at hlast
  obtain ⟨body, rfl⟩ := List.getLast?_eq_some_iff.mp hlast
  exact ⟨body, rfl⟩

/-- An object that can be read is cut out whole by its braces. -/
theorem JsonSpan.exists_of_decode {text : List Char} {json : Json}
    (hfirst : text.head? = some '\x7b') (hlast : text.getLast? = some '\x7d')
    (h : Json.decode (Text.Utf8.encode text) = .ok json) :
    ∃ span : JsonSpan, text = '\x7b' :: span.body ∧ ∃ members, json = .object members := by
  obtain ⟨body, rfl⟩ := exists_between_braces hfirst hlast
  have hbytes : Text.Utf8.encode ('\x7b' :: (body ++ ['\x7d'])) =
      Json.byte '\x7b' :: (Text.Utf8.encode body ++ [Json.byte '\x7d']) := by
    have hcons : '\x7b' :: (body ++ ['\x7d']) = ['\x7b'] ++ (body ++ ['\x7d']) := rfl
    rw [hcons, Text.Utf8.encode_append, Text.Utf8.encode_append]
    rfl
  rw [hbytes] at h
  obtain ⟨rest, hvalue, hspace⟩ := Json.exists_readValue_of_decode h
  obtain ⟨members, rfl, hmembers⟩ := Json.exists_members_of_readValue hvalue
  obtain ⟨taken, hinput, hpass⟩ := Json.leads_readMembers (Json.balanced_readValue 127) hmembers 0
  -- the brace that closes the object is the last character, so that no whitespace is left
  obtain rfl := Json.eq_nil_of_append_cons hspace hinput
  obtain rfl := List.append_cancel_right hinput
  rw [BraceScan.pass_encode] at hpass
  exact ⟨⟨body ++ ['\x7d'], Lexeme.sliceBraces_of_pass hpass []⟩, rfl, members, rfl⟩

/-! ## Objects in a script -/

/-- A document at the beginning of a source is its first token, and nothing behind it is read. -/
theorem JsonSpan.next_ofText (span : JsonSpan) (source : String) (rest : List Char) :
    (TokenStream.ofText source ('\x7b' :: span.body ++ rest)).next =
      (⟨Position.start source, .literal, .json span.raw⟩,
        TokenStream.reading rest ((Position.start source).advance ('\x7b' :: span.body))) := by
  have hnext := Cursor.next_of_readsBack (Spelling.json_readsBack span rest) Blanks.none
    (Position.start source)
  rw [Spelling.text_json] at hnext
  simp only [TokenStream.next, TokenStream.ofText]
  exact congrArg (fun found => (found.1, TokenStream.mk found.2 none)) hnext

/-- The name of the function that reads documents. -/
def FunctionName.json : FunctionName where
  name := "json"
  ne_nil := by decide
  isNameChar_of_mem := List.all_eq_true.mp rfl

/-- A call of the function that reads documents, with a document as its argument. -/
def JsonSpan.call (span : JsonSpan) : Call :=
  .mk .json [.literal (.json span)]

/-- The call holds the document as it is. -/
theorem JsonSpan.text_call (span : JsonSpan) :
    span.call.text = "@json(".toList ++ '\x7b' :: span.body ++ [')'] := by
  have hrow : (Argument.rowSpellings [.literal (.json span)]).flatMap Spelling.text =
      '\x7b' :: span.body :=
    (List.append_nil _).trans (Spelling.text_json span)
  rw [call, Call.text_mk, hrow]
  rfl

/-- The call gives the value of the document. -/
theorem JsonSpan.builds_call {env : Environment StandardFunction}
    (henv : env.functions = StandardFunction.environment.functions) (span : JsonSpan) {v : Value}
    (h : Value.decode span.raw = .ok v) : span.call.Builds env v := by
  have hfunction : env.function? FunctionName.json.name = some .json := by
    rw [Environment.function?, henv]
    decide
  have hdocument : (Argument.literal (.json span)).StandsFor env (.json span.raw) :=
    Argument.standsFor_literal (.json span)
  refine Call.builds_of_apply (Argument.allStandFor_cons hdocument Argument.allStandFor_nil)
    hfunction ?_
  intro t ws hws
  have hreply : StandardFunction.json.apply ws t =
      (StandardFunction.json.orComplain (StandardFunction.decodeOf (t.resolveAll ws).1),
        (t.resolveAll ws).2) := rfl
  have hdecode : StandardFunction.decodeOf [.json span.raw] = .ok v := by
    rw [StandardFunction.decodeOf, StandardFunction.decodeBytes, h]
    rfl
  rw [hreply, hws]
  exact congrArg (fun result => (StandardFunction.json.orComplain result, _)) hdecode

/-- An object that can be read is a literal: the first token of any text that begins with it is the
object with exactly its bytes, and exactly the text behind it is left. Handed to the function that
reads documents, it makes a script that evaluates to the value of the object. -/
theorem object_is_literal (source : String) {text : List Char} {v : Value}
    (hfirst : text.head? = some '\x7b') (hlast : text.getLast? = some '\x7d')
    (hdecode : Value.decode (Text.Utf8.encode text) = .ok v) :
    (∀ rest, (TokenStream.ofText source (text ++ rest)).next =
      (⟨Position.start source, .literal, .json (Text.Utf8.encode text)⟩,
        TokenStream.reading rest ((Position.start source).advance text))) ∧
    ∀ s : Session StandardFunction, s.env.functions = StandardFunction.environment.functions →
      ∃ node s', parseChecked source ("@json(".toList ++ text ++ [')']) = .ok node ∧
        Session.eval StandardFunction.apply node s = (v, s') ∧
        Session.tryEval StandardFunction.apply node s = (.ok v, s') ∧ s'.env = s.env := by
  obtain ⟨json, hjson, rfl⟩ := Json.exists_of_map_eq_ok hdecode
  obtain ⟨span, rfl, members, rfl⟩ := JsonSpan.exists_of_decode hfirst hlast hjson
  refine ⟨span.next_ofText source, fun s hs => ?_⟩
  obtain ⟨node, hparse, hnode⟩ := span.call.exists_parseChecked_text source
  obtain ⟨s', heval, henv⟩ := span.builds_call hs hdecode s rfl
  have hrun := Call.eval_of_mapTokens_eq hnode heval
  have hmap : (Value.ofJson (.object members)).IsContainer := trivial
  rw [span.text_call] at hparse
  refine ⟨node, s', hparse, ?_, Session.tryEval_of_isContainer hmap hrun, henv⟩
  rw [Session.eval, hrun]

/-- An object whose key holds a brace and a quote, with an object and a letter of two bytes. -/
def bracesInKey : List Char :=
  ['\x7b', '"', '\x7d', '\\', '"', '"', ':', '[', '\x7b', '\x7d', ',', '"', 'é', '"', ']', '\x7d']

/-- The object is a literal before other braces, and a script makes a map of it. -/
theorem bracesInKey_is_literal :
    (∀ rest, (TokenStream.ofText "t" (bracesInKey ++ rest)).next =
      (⟨Position.start "t", .literal, .json (Text.Utf8.encode bracesInKey)⟩,
        TokenStream.reading rest ((Position.start "t").advance bracesInKey))) ∧
    ∃ node s', parseChecked "t" ("@json(".toList ++ bracesInKey ++ [')']) = .ok node ∧
      Session.eval StandardFunction.apply node { env := StandardFunction.environment } =
        (.map [("\x7d\"", .list [.map [], .string "é"])], s') ∧
      Session.tryEval StandardFunction.apply node { env := StandardFunction.environment } =
        (.ok (.map [("\x7d\"", .list [.map [], .string "é"])]), s') ∧
      s'.env = StandardFunction.environment := by
  have hdecode : Value.decode (Text.Utf8.encode bracesInKey) =
      .ok (.map [("\x7d\"", .list [.map [], .string "é"])]) := rfl
  have hfirst : bracesInKey.head? = some '\x7b' := rfl
  have hlast : bracesInKey.getLast? = some '\x7d' := rfl
  obtain ⟨hread, hrun⟩ := object_is_literal "t" hfirst hlast hdecode
  exact ⟨hread, hrun { env := StandardFunction.environment } rfl⟩

end CallScript
