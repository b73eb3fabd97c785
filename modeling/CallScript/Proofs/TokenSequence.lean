import CallScript.Source.TokenStream
import CallScript.Proofs.Lexemes

/-!
# The token sequence of a stream

Taking tokens until the end of the input or the first error gives one finite sequence, whatever
the text. This is the sequence that the parser reads: the bound on the number of tokens that
`upcoming` works with is never reached. Every token names the source of the stream, and every
error token carries its own position in its message.
-/

namespace CallScript

/-! ## One finite sequence -/

/-- Taking tokens from the stream up to the end or the first error gives the sequence. -/
inductive TokenStream.Yields : TokenStream → List Token → Prop where
  | last {s : TokenStream} (h : s.next.1.isLast = true) : Yields s [s.next.1]
  | more {s : TokenStream} {ts : List Token} (h : s.next.1.isLast = false)
      (rest : Yields s.next.2 ts) : Yields s (s.next.1 :: ts)

/-- A stream has no more than one sequence. -/
theorem TokenStream.Yields.unique {s : TokenStream} {ts us : List Token} (ht : s.Yields ts)
    (hu : s.Yields us) : ts = us := by
  induction ht generalizing us with
  | last h =>
    cases hu with
    | last h' => rfl
    | more h' _ => simp [h] at h'
  | more h _ ih =>
    cases hu with
    | last h' => simp [h] at h'
    | more h' rest' => rw [ih rest']

/-- The sequence ends with its first last token. -/
theorem TokenStream.Yields.eq_nil {s : TokenStream} {t : Token} {ts : List Token}
    (h : s.Yields (t :: ts)) (hlast : t.isLast = true) : ts = [] := by
  cases h with
  | last _ => rfl
  | more hmore _ => simp [hlast] at hmore

/-- The sequence goes on behind a token that is not a last one. -/
theorem TokenStream.Yields.tail {s : TokenStream} {t : Token} {ts : List Token}
    (h : s.Yields (t :: ts)) (hmore : t.isLast = false) : s.next.2.Yields ts := by
  cases h with
  | last hlast => simp [hmore] at hlast
  | more _ rest => exact rest

/-- A lexeme whose token is not the last one is no fault. -/
theorem Cursor.outcome_eq_ok_of_not_isLast {position : Position} {lexeme : Lexeme}
    (h : (tokenOf position lexeme).isLast = false) :
    ∃ kind value, lexeme.outcome = .ok (kind, value) := by
  cases houtcome : lexeme.outcome with
  | ok found => exact ⟨found.1, found.2, rfl⟩
  | error fault => simp [tokenOf, houtcome, Token.failure, Token.isLast] at h

/-- A token that is not the last one takes at least one character. -/
theorem Cursor.length_rest_next_lt {c : Cursor} (h : c.next.1.isLast = false) :
    c.next.2.rest.length < c.rest.length := by
  unfold next at h ⊢
  split at h
  · simp [Token.failure, Token.isLast] at h
  · dsimp only at h ⊢
    have hblank : c.rest.takeWhile isBlank ++ c.rest.dropWhile isBlank = c.rest :=
      List.takeWhile_append_dropWhile
    have hlength := congrArg List.length hblank
    rw [List.length_append] at hlength
    split at h
    · simp [Token.isLast] at h
    · next ch tail hdrop =>
      have hcuts := Lexeme.scan_cuts ch tail
      obtain ⟨kind, value, hok⟩ := outcome_eq_ok_of_not_isLast h
      have htaken : (Lexeme.scan ch tail).taken ≠ [] := hcuts.taken_ne_nil (by simp [hok])
      have htext := congrArg List.length hcuts.taken_append_rest
      have hpos := List.length_pos_iff.mpr htaken
      simp only [List.length_append, List.length_cons] at htext
      simp only [hdrop, List.length_cons] at hlength ⊢
      omega

/-- A bound on the tokens still to come: one for each character, one for the end, and one for a
token read ahead. -/
def TokenStream.weight (s : TokenStream) : Nat :=
  s.cursor.rest.length + 1 + if s.ahead.isSome then 1 else 0

/-- Taking a token that is not the last one lowers the bound. -/
theorem TokenStream.weight_next_lt {s : TokenStream} (h : s.next.1.isLast = false) :
    s.next.2.weight < s.weight := by
  unfold next at h ⊢
  cases hahead : s.ahead with
  | some token => simp [weight, hahead]
  | none =>
    simp only [hahead] at h
    have hlt := Cursor.length_rest_next_lt h
    simpa [weight, hahead] using hlt

/-- A last token is taken and nothing behind it. -/
theorem TokenStream.takeUpTo_of_isLast {s : TokenStream} (h : s.next.1.isLast = true) (fuel : Nat) :
    s.takeUpTo (fuel + 1) = [s.next] := by
  simp [takeUpTo, h]

/-- Behind any other token taking goes on. -/
theorem TokenStream.takeUpTo_of_not_isLast {s : TokenStream} (h : s.next.1.isLast = false)
    (fuel : Nat) :
    s.takeUpTo (fuel + 1) = s.next :: s.next.2.takeUpTo fuel := by
  simp [takeUpTo, h]

/-- With enough fuel the tokens taken are the sequence of the stream. -/
theorem TokenStream.yields_takeUpTo {fuel : Nat} {s : TokenStream} (h : s.weight ≤ fuel) :
    s.Yields ((s.takeUpTo fuel).map Prod.fst) := by
  induction fuel generalizing s with
  | zero => simp [weight] at h
  | succ fuel ih =>
    simp only [takeUpTo, List.map_cons]
    cases hlast : s.next.1.isLast with
    | true => exact .last hlast
    | false =>
      have hlt := weight_next_lt hlast
      exact .more hlast (ih (by omega))

/-- The tokens that the parser reads are the sequence of its stream. -/
theorem TokenStream.yields_upcoming (s : TokenStream) : s.Yields (s.upcoming.map Prod.fst) := by
  apply yields_takeUpTo
  unfold weight
  split <;> omega

/-! ## Where tokens come from -/

/-- The token lies in the source, and if it is an error it says where. -/
structure Token.BelongsTo (t : Token) (source : String) : Prop where
  source_eq : t.position.source = source
  message_of_error : t.kind = .error → ∃ about, t.value = .error (t.position.message about)

/-- The failure at a position of the source belongs to it. -/
theorem Token.failure_belongsTo {position : Position} {source : String}
    (h : position.source = source) (about : String) : (failure position about).BelongsTo source :=
  ⟨h, fun _ => ⟨about, rfl⟩⟩

/-- The next token and the cursor behind it stay in the source. -/
theorem Cursor.next_belongsTo {c : Cursor} {source : String} (h : c.position.source = source) :
    c.next.1.BelongsTo source ∧ c.next.2.position.source = source := by
  unfold next
  split
  · exact ⟨Token.failure_belongsTo h _, h⟩
  · dsimp only
    split
    · exact ⟨⟨by simp [h], by simp⟩, by simp [h]⟩
    · next ch tail hdrop =>
      refine ⟨?_, by simp [h]⟩
      have hkind := (Lexeme.scan_cuts ch tail).kind_of_ok
      unfold tokenOf
      split
      · next kind value hok =>
        exact ⟨by simp [h], fun herror => absurd herror (hkind kind value hok).2⟩
      · exact Token.failure_belongsTo (by simp [h]) _

/-- Everything the stream holds lies in the source. -/
def TokenStream.ReadsFrom (s : TokenStream) (source : String) : Prop :=
  s.cursor.position.source = source ∧ ∀ t ∈ s.ahead, t.BelongsTo source

/-- A text read under a name is read from that source. -/
theorem TokenStream.ofText_readsFrom (source : String) (text : List Char) :
    (ofText source text).ReadsFrom source :=
  ⟨rfl, by simp [ofText]⟩

/-- Taking a token keeps the stream in its source. -/
theorem TokenStream.next_readsFrom {s : TokenStream} {source : String} (h : s.ReadsFrom source) :
    s.next.1.BelongsTo source ∧ s.next.2.ReadsFrom source := by
  obtain ⟨hposition, hahead⟩ := h
  unfold next
  split
  · next token hsome => exact ⟨hahead token hsome, hposition, by simp⟩
  · obtain ⟨htoken, hcursor⟩ := Cursor.next_belongsTo hposition
    exact ⟨htoken, hcursor, by simp⟩

/-- All tokens of a stream belong to its source. -/
theorem TokenStream.Yields.belongsTo {s : TokenStream} {ts : List Token} {source : String}
    (hyields : s.Yields ts) (h : s.ReadsFrom source) : ∀ t ∈ ts, t.BelongsTo source := by
  induction hyields with
  | last _ =>
    intro t ht
    rw [List.mem_singleton.mp ht]
    exact (next_readsFrom h).1
  | more _ _ ih =>
    intro t ht
    rcases List.mem_cons.mp ht with rfl | hrest
    · exact (next_readsFrom h).1
    · exact ih (next_readsFrom h).2 t hrest

end CallScript
