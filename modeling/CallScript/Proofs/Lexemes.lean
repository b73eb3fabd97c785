import CallScript.Source.Lexeme

/-!
# Lexemes cut their text

Whatever a scanner finds, the characters it takes and the characters it leaves are its text, and
it takes at least one unless no token begins there. A lexeme that is a token is never the end of
the input and never an error: those two kinds come from elsewhere.
-/

namespace CallScript.Lexeme

/-- The lexeme divides the text, and takes some of it unless the first character begins nothing. -/
structure Cuts (l : Lexeme) (text : List Char) : Prop where
  taken_append_rest : l.taken ++ l.rest = text
  taken_ne_nil : (∀ c, l.outcome ≠ .error (.unexpected c)) → l.taken ≠ []
  kind_of_ok : ∀ kind value, l.outcome = .ok (kind, value) → kind ≠ .done ∧ kind ≠ .error

/-- A token that takes some characters cuts them off. -/
theorem token_cuts {kind : TokenKind} (value : Value) {taken rest text : List Char}
    (htext : taken ++ rest = text) (htaken : taken ≠ []) (hdone : kind ≠ .done)
    (herror : kind ≠ .error) : (token kind value taken rest).Cuts text where
  taken_append_rest := htext
  taken_ne_nil := fun _ => htaken
  kind_of_ok := by
    intro kind' value' h
    injection h with h
    injection h with hkind
    exact hkind ▸ ⟨hdone, herror⟩

/-- A fault that takes some characters cuts them off. -/
theorem fault_cuts (why : LexicalFault) {taken rest text : List Char}
    (htext : taken ++ rest = text) (htaken : taken ≠ []) : (fault why taken rest).Cuts text where
  taken_append_rest := htext
  taken_ne_nil := fun _ => htaken
  kind_of_ok := by
    intro kind value h
    cases h

/-- A comment is cut off before its line break. -/
theorem comment_cuts (rest : List Char) : (comment rest).Cuts ('#' :: rest) := by
  have hsplit : rest.takeWhile (· != '\n') ++ rest.dropWhile (· != '\n') = rest :=
    List.takeWhile_append_dropWhile
  unfold comment
  split
  · next hdrop =>
    refine fault_cuts _ ?_ (by simp)
    rw [hdrop, List.append_nil] at hsplit
    rw [hsplit, List.append_nil]
  · exact token_cuts _ (by simp [hsplit]) (by simp) (by decide) (by decide)

/-- A function name is cut off behind its last character. -/
theorem func_cuts (rest : List Char) : (func rest).Cuts ('@' :: rest) := by
  have hsplit : rest.takeWhile isNameChar ++ rest.dropWhile isNameChar = rest :=
    List.takeWhile_append_dropWhile
  simp only [func]
  split
  · next hempty =>
    refine fault_cuts _ ?_ (by simp)
    rw [List.isEmpty_iff.mp hempty] at hsplit
    simpa using hsplit
  · exact token_cuts _ (by simp [hsplit]) (by simp) (by decide) (by decide)

/-- A letter may stand in a name. -/
theorem isNameChar_of_isAlphabetic {c : Char} (h : Text.isAlphabetic c = true) :
    isNameChar c = true := by
  simp [isNameChar, Text.isAlphanumeric, h]

/-- A field path is cut off behind its last character. -/
theorem field_cuts {c : Char} (hc : isNameChar c = true) (rest : List Char) :
    (field (c :: rest)).Cuts (c :: rest) :=
  token_cuts _ List.takeWhile_append_dropWhile (by simp [hc])
    (by decide) (by decide)

/-- A string is cut off behind its closing quote, or takes the whole text. -/
theorem string_cuts (rest : List Char) : (string rest).Cuts ('\'' :: rest) := by
  unfold string
  split
  · next hread =>
    exact token_cuts _ (by simp [Text.readQuoted_split hread]) (by simp) (by decide) (by decide)
  · exact fault_cuts _ (by simp) (by simp)

/-- One character either ends the slice or leads on to another state, whatever follows it. -/
theorem sliceBraces_cons (depth : Nat) (state : BraceState) (c : Char) :
    (∀ text, sliceBraces depth state (c :: text) = some ([c], text)) ∨
    ∃ depth' state', ∀ text, sliceBraces depth state (c :: text) =
      (sliceBraces depth' state' text).map fun (taken, rest) => (c :: taken, rest) := by
  cases state with
  | plain =>
    by_cases hclose : c = '\x7d'
    · cases depth with
      | zero => exact .inl fun text => by rw [sliceBraces, if_pos hclose]
      | succ depth => exact .inr ⟨depth, .plain, fun text => by rw [sliceBraces, if_pos hclose]⟩
    · refine .inr ⟨if c = '\x7b' then depth + 1 else depth,
        if c = '"' then .quoted else .plain, fun text => ?_⟩
      simp only [sliceBraces, if_neg hclose]
  | quoted => exact .inr ⟨_, _, fun _ => rfl⟩
  | escaped => exact .inr ⟨_, _, fun _ => rfl⟩

/-- Slicing at a brace divides its text. -/
theorem sliceBraces_split {depth : Nat} {state : BraceState} {text taken rest : List Char}
    (h : sliceBraces depth state text = some (taken, rest)) : taken ++ rest = text := by
  induction text generalizing depth state taken rest with
  | nil => simp [sliceBraces] at h
  | cons c text ih =>
    rcases sliceBraces_cons depth state c with hend | ⟨depth', state', hmore⟩
    · rw [hend] at h
      obtain ⟨rfl, rfl⟩ := Prod.mk.inj (Option.some.inj h)
      rfl
    · rw [hmore] at h
      obtain ⟨⟨taken', rest'⟩, hslice, heq⟩ := Option.map_eq_some_iff.mp h
      obtain ⟨rfl, rfl⟩ := Prod.mk.inj heq
      rw [List.cons_append, ih hslice]

/-- A JSON literal is cut off behind its last brace, or takes the whole text. -/
theorem json_cuts (rest : List Char) : (json rest).Cuts ('\x7b' :: rest) := by
  unfold json
  split
  · next hslice =>
    exact token_cuts _ (by simp [sliceBraces_split hslice]) (by simp) (by decide) (by decide)
  · exact fault_cuts _ (by simp) (by simp)

/-- The sign of a text that begins like a number, if it has one. -/
def signOf (text : List Char) : List Char :=
  if text.head? == some '-' then ['-'] else []

/-- The text behind the sign of a number. -/
def unsigned (text : List Char) : List Char :=
  if text.head? == some '-' then text.drop 1 else text

/-- The sign and what stands behind it are the text. -/
theorem signOf_append_unsigned (text : List Char) : signOf text ++ unsigned text = text := by
  unfold signOf unsigned
  split
  · next hsign =>
    obtain ⟨rest, rfl⟩ := List.head?_eq_some_iff.mp (beq_iff_eq.mp hsign)
    rfl
  · rfl

/-- A number is spelled with its sign and all digits and points behind it. -/
def numberSpelled (text : List Char) : List Char :=
  signOf text ++ (unsigned text).takeWhile isNumberChar

/-- What a number is spelled with and what it leaves are the text. -/
theorem numberSpelled_append (text : List Char) :
    numberSpelled text ++ (unsigned text).dropWhile isNumberChar = text := by
  rw [numberSpelled, List.append_assoc, List.takeWhile_append_dropWhile, signOf_append_unsigned]

/-- What begins like a number is spelled with some character. -/
theorem numberSpelled_ne_nil {c : Char} (hc : c.isDigit || c == '-') (rest : List Char) :
    numberSpelled (c :: rest) ≠ [] := by
  by_cases hsign : c = '-'
  · simp [numberSpelled, signOf, hsign]
  · have hdigit : c.isDigit = true := by simpa [hsign] using hc
    simp [numberSpelled, signOf, unsigned, hsign, isNumberChar, hdigit]

/-- A number is cut off behind the last digit or point. -/
theorem number_cuts {c : Char} (hc : c.isDigit || c == '-') (rest : List Char) :
    (number (c :: rest)).Cuts (c :: rest) := by
  have hsplit := numberSpelled_append (c :: rest)
  have hspelled := numberSpelled_ne_nil hc rest
  change (if 1 < ((unsigned (c :: rest)).takeWhile isNumberChar).count '.' then
    fault (.manyPoints (numberSpelled (c :: rest))) (numberSpelled (c :: rest)) _ else _ : Lexeme).Cuts _
  split
  · exact fault_cuts _ hsplit hspelled
  · split
    · exact token_cuts _ hsplit hspelled (by decide) (by decide)
    · exact fault_cuts _ hsplit hspelled

/-- Every lexeme cuts the text it is found in. -/
theorem scan_cuts (c : Char) (rest : List Char) : (scan c rest).Cuts (c :: rest) := by
  unfold scan
  by_cases hline : c = '\n'
  · rw [if_pos hline]
    exact token_cuts _ rfl (by simp) (by decide) (by decide)
  by_cases hcomment : c = '#'
  · rw [if_neg hline, if_pos hcomment, hcomment]
    exact comment_cuts rest
  by_cases hfunc : c = '@'
  · rw [if_neg hline, if_neg hcomment, if_pos hfunc, hfunc]
    exact func_cuts rest
  by_cases hjson : c = '\x7b'
  · rw [if_neg hline, if_neg hcomment, if_neg hfunc, if_pos hjson, hjson]
    exact json_cuts rest
  by_cases hstring : c = '\''
  · rw [if_neg hline, if_neg hcomment, if_neg hfunc, if_neg hjson, if_pos hstring, hstring]
    exact string_cuts rest
  rw [if_neg hline, if_neg hcomment, if_neg hfunc, if_neg hjson, if_neg hstring]
  by_cases hnumber : c.isDigit || c == '-'
  · rw [if_pos hnumber]
    exact number_cuts hnumber rest
  rw [if_neg hnumber]
  by_cases hopen : c = '('
  · rw [if_pos hopen]
    exact token_cuts _ rfl (by simp) (by decide) (by decide)
  by_cases hclose : c = ')'
  · rw [if_neg hopen, if_pos hclose]
    exact token_cuts _ rfl (by simp) (by decide) (by decide)
  by_cases hcomma : c = ','
  · rw [if_neg hopen, if_neg hclose, if_pos hcomma]
    exact token_cuts _ rfl (by simp) (by decide) (by decide)
  rw [if_neg hopen, if_neg hclose, if_neg hcomma]
  by_cases hletter : Text.isAlphabetic c
  · rw [if_pos hletter]
    exact field_cuts (isNameChar_of_isAlphabetic hletter) rest
  · rw [if_neg hletter]
    exact ⟨rfl, fun h => absurd rfl (h c), fun _ _ h => by cases h⟩

end CallScript.Lexeme
