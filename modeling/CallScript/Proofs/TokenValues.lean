import CallScript.Proofs.Spelling
import CallScript.Proofs.TokenSequence

/-!
# What tokens carry

The kind of a token decides the sort of its value: a function name has some characters, a literal is
an integer, a float, a string or a JSON document cut out by its braces, and malformed text is an
error. Every scanner keeps to this, and so does every token that a source gives.
-/

namespace CallScript

/-- The values of literals. A JSON document is cut out by its braces. -/
inductive Value.IsLiteral : Value → Prop where
  | int (n : Int64) : IsLiteral (.int n)
  | float (x : Float) : IsLiteral (.float x)
  | string (s : String) : IsLiteral (.string s)
  | json (span : JsonSpan) : IsLiteral (.json span.raw)

/-- The values that tokens of a kind carry. -/
inductive TokenKind.Carries : TokenKind → Value → Prop where
  | done : Carries .done .nil
  | error (message : String) : Carries .error (.error message)
  | comma : Carries .comma (.string ",")
  | openParen : Carries .openParen (.string "(")
  | closeParen : Carries .closeParen (.string ")")
  | field (path : FieldPath) : Carries .field (.fieldName path)
  | func {name : String} (ne_empty : name ≠ "") : Carries .func (.funcName name)
  | comment (text : String) : Carries .comment (.comment text)
  | literal {value : Value} (isLiteral : value.IsLiteral) : Carries .literal value
  | eol : Carries .eol .nil

/-- The token carries a value of the sort that its kind asks for. -/
def Token.IsSound (t : Token) : Prop :=
  t.kind.Carries t.value

/-! ## Scanners -/

namespace Lexeme

/-- A lexeme that is a token has a value of the sort that its kind asks for. -/
def IsSound (l : Lexeme) : Prop :=
  ∀ kind value, l.outcome = .ok (kind, value) → kind.Carries value

theorem token_isSound {kind : TokenKind} {value : Value} (h : kind.Carries value)
    (taken rest : List Char) : (token kind value taken rest).IsSound := by
  intro kind' value' heq
  cases heq
  exact h

theorem fault_isSound (why : LexicalFault) (taken rest : List Char) :
    (fault why taken rest).IsSound := by
  intro kind value heq
  cases heq

theorem comment_isSound (rest : List Char) : (comment rest).IsSound := by
  unfold comment
  split
  · exact fault_isSound _ _ _
  · exact token_isSound (.comment _) _ _

theorem func_isSound (rest : List Char) : (func rest).IsSound := by
  simp only [func]
  split
  · exact fault_isSound _ _ _
  · next hname =>
    refine token_isSound (.func fun hempty => hname ?_) _ _
    rw [String.ofList_eq_empty_iff.mp hempty]
    rfl

theorem string_isSound (rest : List Char) : (string rest).IsSound := by
  unfold string
  split
  · exact token_isSound (.literal (.string _)) _ _
  · exact fault_isSound _ _ _

/-- What is sliced off is sliced whole if nothing follows it. -/
theorem sliceBraces_taken {depth : Nat} {state : BraceState} {text taken rest : List Char}
    (h : sliceBraces depth state text = some (taken, rest)) :
    sliceBraces depth state taken = some (taken, []) := by
  induction text generalizing depth state taken rest with
  | nil => simp [sliceBraces] at h
  | cons c text ih =>
    rcases sliceBraces_cons depth state c with hend | ⟨depth', state', hmore⟩
    · rw [hend] at h
      obtain ⟨rfl, rfl⟩ := Prod.mk.inj (Option.some.inj h)
      exact hend []
    · rw [hmore] at h
      obtain ⟨⟨taken', rest'⟩, hslice, heq⟩ := Option.map_eq_some_iff.mp h
      obtain ⟨rfl, rfl⟩ := Prod.mk.inj heq
      rw [hmore, ih hslice]
      rfl

/-- A JSON literal carries what its braces cut out. -/
theorem json_isSound (rest : List Char) : (json rest).IsSound := by
  unfold json
  split
  · next taken rest hslice =>
    let span : JsonSpan := ⟨taken, sliceBraces_taken hslice⟩
    exact token_isSound (.literal (.json span)) _ _
  · exact fault_isSound _ _ _

/-- A row of digits is an integer or no number. -/
theorem isLiteral_of_integer {negative : Bool} {digits : List Char} {value : Value}
    (h : integer negative digits = .ok value) : value.IsLiteral := by
  unfold integer at h
  dsimp only at h
  split at h
  · cases h
  · split at h <;> split at h <;> cases h <;> exact .int _

/-- Digits with a point are a float or no number. -/
theorem isLiteral_of_float {negative : Bool} {digits : List Char} {value : Value}
    (h : float negative digits = .ok value) : value.IsLiteral := by
  unfold float at h
  dsimp only at h
  split at h
  · cases h
  · cases h
    exact .float _

/-- Digits and points are a literal or no number. -/
theorem isLiteral_of_digits {negative : Bool} {digits : List Char} {value : Value}
    (h : (if digits.count '.' = 1 then float negative digits else integer negative digits) =
      .ok value) : value.IsLiteral := by
  split at h
  · exact isLiteral_of_float h
  · exact isLiteral_of_integer h

theorem number_isSound (text : List Char) : (number text).IsSound := by
  change (if 1 < ((unsigned text).takeWhile isNumberChar).count '.' then
    fault (.manyPoints (numberSpelled text)) (numberSpelled text) _ else _ : Lexeme).IsSound
  split
  · exact fault_isSound _ _ _
  · split
    · next value hread => exact token_isSound (.literal (isLiteral_of_digits hread)) _ _
    · exact fault_isSound _ _ _

/-- Every lexeme is sound. -/
theorem scan_isSound (c : Char) (rest : List Char) : (scan c rest).IsSound := by
  unfold scan
  split
  · exact token_isSound .eol _ _
  split
  · exact comment_isSound rest
  split
  · exact func_isSound rest
  split
  · exact json_isSound rest
  split
  · exact string_isSound rest
  split
  · exact number_isSound _
  split
  · exact token_isSound .openParen _ _
  split
  · exact token_isSound .closeParen _ _
  split
  · exact token_isSound .comma _ _
  split
  · exact token_isSound (.field _) _ _
  · exact fault_isSound _ _ _

end Lexeme

/-! ## Sources -/

theorem Token.failure_isSound (position : Position) (about : String) :
    (failure position about).IsSound :=
  .error _

/-- The next token of a source is sound. -/
theorem Cursor.next_isSound (c : Cursor) : c.next.1.IsSound := by
  unfold next
  split
  · exact Token.failure_isSound _ _
  · dsimp only
    split
    · exact .done
    · next ch tail _ =>
      unfold tokenOf
      split
      · next kind value hok => exact Lexeme.scan_isSound ch tail kind value hok
      · exact Token.failure_isSound _ _

/-- All tokens of a stream are sound if the one read ahead is. -/
theorem TokenStream.Yields.isSound {s : TokenStream} {ts : List Token} (h : s.Yields ts)
    (hahead : ∀ t ∈ s.ahead, t.IsSound) : ∀ t ∈ ts, t.IsSound := by
  have hnext : ∀ s : TokenStream, (∀ t ∈ s.ahead, t.IsSound) →
      s.next.1.IsSound ∧ ∀ t ∈ s.next.2.ahead, t.IsSound := by
    intro s hs
    unfold next
    split
    · next token hsome => exact ⟨hs token hsome, nofun⟩
    · exact ⟨s.cursor.next_isSound, nofun⟩
  induction h with
  | last _ => exact List.forall_mem_singleton.mpr (hnext _ hahead).1
  | more _ _ ih =>
    obtain ⟨htoken, hrest⟩ := hnext _ hahead
    exact List.forall_mem_cons.mpr ⟨htoken, ih hrest⟩

end CallScript
