import CallScript.Proofs.LineJoining
import CallScript.Proofs.ReusedParser
import CallScript.Proofs.Tiling

/-!
# Reading comes to an end

A token takes some of the text, or it is the end of the input or a complaint about a character that
begins no token. Those two take nothing and come back for ever, so whoever reads on behind them
never stops. Parsers do not: each step stops at such a token at the latest. So reading a call, an
argument, a statement or a script ends, whatever has been asked of the parser before, and takes no
more than one token for each unread character and one for the stop.
-/

namespace CallScript

/-! ## Streams -/

/-- The token complains about a character that begins no token. -/
def Token.IsUnexpected (t : Token) : Prop :=
  ∃ c, t = failure t.position (LexicalFault.unexpected c).message

/-- The beginning of a text decides about its third character. -/
theorem third_append {s : String} (h : 2 < s.toList.length) (t : String) :
    (s ++ t).toList[2]? = s.toList[2]? := by
  rw [String.toList_append, List.getElem?_append_left h]

/-- A message about another fault does not begin like one about a character. -/
theorem LexicalFault.eq_unexpected_of_message {why : LexicalFault} {c : Char}
    (h : why.message = (unexpected c).message) : ∃ d, why = unexpected d := by
  have hthird : why.message.toList[2]? = some 'e' := by
    rw [h]
    exact third_append (by decide) (String.ofList (Text.showChar c))
  cases why with
  | unexpected d => exact ⟨d, rfl⟩
  | unterminatedComment => exact absurd hthird (by decide)
  | missingName => exact absurd hthird (by decide)
  | unterminatedJson => exact absurd hthird (by decide)
  | unterminatedString => exact absurd hthird (by decide)
  | manyPoints number =>
    have hother := third_append (s := "more than one floating point in ") (by decide)
      (String.ofList number)
    exact absurd (hother.symm.trans hthird) (by decide)
  | invalidNumber number fault =>
    have hother := third_append (s := "invalid number '") (by decide)
      (String.ofList number ++ "': " ++ fault.message)
    rw [← String.append_assoc, ← String.append_assoc] at hother
    exact absurd (hother.symm.trans hthird) (by decide)

/-- Messages at one position say what they are about. -/
theorem Position.message_inj {p : Position} {about about' : String}
    (h : p.message about = p.message about') : about = about' := by
  have hchars := congrArg String.toList h
  simp only [message, String.toList_append] at hchars
  exact String.toList_inj.mp (List.append_cancel_left hchars)

namespace Lexeme

/-- The lexeme complains about a character that begins no token. -/
def IsUnexpected (l : Lexeme) : Prop :=
  ∃ c, l.outcome = .error (.unexpected c)

theorem not_isUnexpected_token (kind : TokenKind) (value : Value) (taken rest : List Char) :
    ¬ (token kind value taken rest).IsUnexpected := by
  intro h
  obtain ⟨c, hc⟩ := h
  cases hc

theorem not_isUnexpected_comment (rest : List Char) : ¬ (comment rest).IsUnexpected := by
  intro h
  obtain ⟨c, hc⟩ := h
  unfold comment at hc
  split at hc <;> cases hc

theorem not_isUnexpected_func (rest : List Char) : ¬ (func rest).IsUnexpected := by
  intro h
  obtain ⟨c, hc⟩ := h
  simp only [func] at hc
  split at hc <;> cases hc

theorem not_isUnexpected_json (rest : List Char) : ¬ (json rest).IsUnexpected := by
  intro h
  obtain ⟨c, hc⟩ := h
  unfold json at hc
  split at hc <;> cases hc

theorem not_isUnexpected_string (rest : List Char) : ¬ (string rest).IsUnexpected := by
  intro h
  obtain ⟨c, hc⟩ := h
  unfold string at hc
  split at hc <;> cases hc

theorem not_isUnexpected_number (text : List Char) : ¬ (number text).IsUnexpected := by
  change ¬ (if 1 < ((unsigned text).takeWhile isNumberChar).count '.' then
    fault (.manyPoints (numberSpelled text)) (numberSpelled text) _ else _ : Lexeme).IsUnexpected
  intro h
  obtain ⟨c, hc⟩ := h
  split at hc
  · cases hc
  · split at hc <;> cases hc

/-- A character that is complained about is not taken, and neither is anything behind it. -/
theorem scan_of_isUnexpected {c : Char} {rest : List Char} (h : (scan c rest).IsUnexpected) :
    scan c rest = fault (.unexpected c) [] (c :: rest) := by
  unfold scan at h ⊢
  split at h
  · exact absurd h (not_isUnexpected_token _ _ _ _)
  split at h
  · exact absurd h (not_isUnexpected_comment rest)
  split at h
  · exact absurd h (not_isUnexpected_func rest)
  split at h
  · exact absurd h (not_isUnexpected_json rest)
  split at h
  · exact absurd h (not_isUnexpected_string rest)
  split at h
  · exact absurd h (not_isUnexpected_number _)
  split at h
  · exact absurd h (not_isUnexpected_token _ _ _ _)
  split at h
  · exact absurd h (not_isUnexpected_token _ _ _ _)
  split at h
  · exact absurd h (not_isUnexpected_token _ _ _ _)
  split at h
  · exact absurd h (not_isUnexpected_token _ _ _ _)
  · simp [*]

end Lexeme

/-- Only a lexeme that complains about a character becomes a token that does. -/
theorem Cursor.isUnexpected_of_tokenOf {position : Position} {lexeme : Lexeme}
    (h : (tokenOf position lexeme).IsUnexpected) (hkind : ∀ kind value,
      lexeme.outcome = .ok (kind, value) → kind ≠ .done ∧ kind ≠ .error) :
    lexeme.IsUnexpected := by
  obtain ⟨c, hc⟩ := h
  rw [position_tokenOf] at hc
  unfold tokenOf at hc
  split at hc
  · next kind value hok => exact absurd (congrArg Token.kind hc) (hkind kind value hok).2
  · next why hwhy =>
    have hmessage : position.message why.message =
        position.message (LexicalFault.unexpected c).message :=
      Value.error.inj (congrArg Token.value hc)
    obtain ⟨d, rfl⟩ := LexicalFault.eq_unexpected_of_message (Position.message_inj hmessage)
    exact ⟨d, hwhy⟩

namespace TokenStream

/-- Taking a token takes some of the text: what is left is a shorter end of it, and the token is
neither the end of the input nor a complaint about a character. -/
structure Advances (s : TokenStream) : Prop where
  isSuffix : s.next.2.cursor.rest <:+ s.cursor.rest
  length_lt : s.next.2.cursor.rest.length < s.cursor.rest.length
  not_done : s.next.1.kind ≠ .done
  not_unexpected : ¬ s.next.1.IsUnexpected

/-- Taking a token gives the end of the input or a complaint about a character, and from then on
gives it again and changes nothing. -/
structure Rests (s : TokenStream) : Prop where
  done_or_unexpected : s.next.1.kind = .done ∨ s.next.1.IsUnexpected
  repeats : ∀ n, s.behind (n + 1) = s.next.2 ∧ (s.behind (n + 1)).next = s.next

/-- A stream whose next token comes back at once rests there. -/
theorem rests_of_next_next {s : TokenStream}
    (htoken : s.next.1.kind = .done ∨ s.next.1.IsUnexpected) (h : s.next.2.next = s.next) :
    s.Rests where
  done_or_unexpected := htoken
  repeats := by
    intro n
    induction n with
    | zero => exact ⟨rfl, h⟩
    | succ n ih =>
      obtain ⟨-, hnext⟩ := ih
      have hbehind : s.behind (n + 2) = s.next.2 := congrArg Prod.snd hnext
      exact ⟨hbehind, hbehind ▸ h⟩

/-- What scanning finds behind blanks takes some of the text, or complains and takes nothing. -/
theorem advances_or_rests_of_scan {text : List Char} {p : Position} {c : Char} {tail : List Char}
    (hdrop : text.dropWhile isBlank = c :: tail)
    (hnext : Cursor.next ⟨text, p, none⟩ =
      (Cursor.tokenOf (p.advance (text.takeWhile isBlank)) (Lexeme.scan c tail),
        ⟨(Lexeme.scan c tail).rest,
          (p.advance (text.takeWhile isBlank)).advance (Lexeme.scan c tail).taken, none⟩)) :
    Advances ⟨⟨text, p, none⟩, none⟩ ∨ Rests ⟨⟨text, p, none⟩, none⟩ := by
  have hcuts := Lexeme.scan_cuts c tail
  have hstream : TokenStream.next ⟨⟨text, p, none⟩, none⟩ =
      (Cursor.tokenOf (p.advance (text.takeWhile isBlank)) (Lexeme.scan c tail),
        reading (Lexeme.scan c tail).rest
          ((p.advance (text.takeWhile isBlank)).advance (Lexeme.scan c tail).taken)) := by
    simp only [next, hnext]
    rfl
  by_cases hunexpected : (Lexeme.scan c tail).IsUnexpected
  · -- nothing is taken, and `c` is no blank, so the same is found again
    right
    have hblank : isBlank c = false := by
      have hhead := List.head?_dropWhile_not isBlank text
      rw [hdrop] at hhead
      simpa using hhead
    rw [Lexeme.scan_of_isUnexpected hunexpected] at hstream
    refine rests_of_next_next (.inr ?_) ?_
    · rw [hstream]
      exact ⟨c, rfl⟩
    · rw [hstream]
      simp [next, reading, Cursor.next, Lexeme.fault, hblank,
        Lexeme.scan_of_isUnexpected hunexpected]
  · left
    have hsuffix : (Lexeme.scan c tail).rest <:+ text := by
      have hrest : (Lexeme.scan c tail).rest <:+ c :: tail := ⟨_, hcuts.taken_append_rest⟩
      exact hrest.trans (hdrop ▸ List.dropWhile_suffix isBlank)
    have hlength : (Lexeme.scan c tail).rest.length < text.length := by
      have htaken := hcuts.taken_ne_nil fun d hd => hunexpected ⟨d, hd⟩
      have hword := congrArg List.length hcuts.taken_append_rest
      have htext := (List.dropWhile_suffix (l := text) isBlank).length_le
      have hpos := List.length_pos_iff.mpr htaken
      rw [hdrop] at htext
      rw [List.length_append] at hword
      omega
    refine ⟨?_, ?_, ?_, ?_⟩ <;> rw [hstream]
    · exact hsuffix
    · exact hlength
    · exact Cursor.kind_tokenOf_scan _ c tail
    · exact fun h => hunexpected (Cursor.isUnexpected_of_tokenOf h hcuts.kind_of_ok)

/-- A stream that holds no token and no failure takes some of its text, or rests. -/
theorem advances_or_rests {s : TokenStream} (hahead : s.ahead = none)
    (hfailure : s.cursor.failure = none) : s.Advances ∨ s.Rests := by
  obtain ⟨⟨text, p, failure⟩, ahead⟩ := s
  obtain rfl : failure = none := hfailure
  obtain rfl : ahead = none := hahead
  rcases Cursor.next_eq text p with ⟨hblank, hnext⟩ | ⟨c, tail, hdrop, hnext⟩
  · right
    have hstream : TokenStream.next ⟨⟨text, p, none⟩, none⟩ =
        (⟨p.advance text, .done, .nil⟩, reading [] (p.advance text)) := by
      simp only [next, hnext]
      rfl
    refine rests_of_next_next (.inl ?_) ?_
    · rw [hstream]
    · rw [hstream]
      rfl
  · exact advances_or_rests_of_scan hdrop hnext

end TokenStream

/-! ## What is unread -/

/-- The stream has not read, or has only read ahead, the text from an offset on. Behind a token that
was read ahead this is the offset where that token begins. -/
inductive TokenStream.UnreadFrom (source : String) (text : List Char) :
    TokenStream → Nat → Prop where
  | clear {offset : Nat} (h : offset ≤ text.length) :
      UnreadFrom source text ⟨.ofOffset source text offset, none⟩ offset
  | ahead {t : Token} {last start stop : Nat} (h : t.Covers source text last start stop) :
      UnreadFrom source text ⟨.ofOffset source text stop, some t⟩ start

namespace TokenStream.UnreadFrom

variable {source : String} {text : List Char} {s : TokenStream} {offset : Nat}

/-- No more is read than there is. -/
theorem le_length (h : s.UnreadFrom source text offset) : offset ≤ text.length := by
  cases h with
  | clear h => exact h
  | ahead h => exact h.gap.start_le_length

/-- Taking a token leaves no more unread than before, and less if the token is not a last one. -/
theorem next (h : s.UnreadFrom source text offset) :
    ∃ offset', s.next.2.UnreadFrom source text offset' ∧
      (s.next.1.isLast = false → offset < offset') := by
  have hlt : ∀ {t : Token} {last start stop : Nat}, t.Covers source text last start stop →
      t.isLast = false → start < stop := by
    intro t last start stop hcovers hmore
    have hkind : t.kind ≠ .done ∧ t.kind ≠ .error := by simpa [Token.isLast] using hmore
    exact hcovers.start_lt_stop hkind.1 hkind.2
  cases h with
  | clear h =>
    obtain ⟨start, stop, hcovers, hcursor⟩ := Cursor.exists_covers_next source h
    have hstream : TokenStream.next ⟨.ofOffset source text offset, none⟩ =
        ((Cursor.ofOffset source text offset).next.1, ⟨.ofOffset source text stop, none⟩) := by
      rw [← hcursor]
      rfl
    rw [hstream]
    exact ⟨stop, .clear hcovers.stop_le_length, fun hmore =>
      Nat.lt_of_le_of_lt hcovers.gap.last_le_start (hlt hcovers hmore)⟩
  | @ahead t last start stop h => exact ⟨stop, .clear h.stop_le_length, hlt h⟩

/-- Looking ahead leaves the token that is seen unread. -/
theorem peek (h : s.UnreadFrom source text offset) :
    ∃ offset', s.peek.2.UnreadFrom source text offset' := by
  cases h with
  | clear h =>
    obtain ⟨start, stop, hcovers, hcursor⟩ := Cursor.exists_covers_next source h
    have hstream : TokenStream.peek ⟨.ofOffset source text offset, none⟩ =
        ((Cursor.ofOffset source text offset).next.1,
          ⟨.ofOffset source text stop, some (Cursor.ofOffset source text offset).next.1⟩) := by
      rw [← hcursor]
      rfl
    rw [hstream]
    exact ⟨start, .ahead hcovers⟩
  | ahead h => exact ⟨_, .ahead h⟩

end TokenStream.UnreadFrom

/-! ## Reading without a bound -/

/-- Reading takes tokens one after the other, as many as it wants, and ends with what was read. The
next token is handed to the reaction, and each token behind it to the state that the step before led
to. Only readings that end are of this kind: nothing bounds the number of tokens here. -/
inductive Stops {σ : Type} (step : σ → Token → Step σ) :
    (Token → Step σ) → TokenStream → Parsed → Prop where
  | now {react : Token → Step σ} {s : TokenStream} {node : Node} {failed : Bool}
      (h : react s.next.1 = .stop node failed) :
      Stops step react s ⟨node, [s.next.1], ⟨s.next.2, failed⟩⟩
  | later {react : Token → Step σ} {s : TokenStream} {state : σ} {parsed : Parsed}
      (h : react s.next.1 = .more state) (rest : Stops step (step state) s.next.2 parsed) :
      Stops step react s { parsed with taken := s.next.1 :: parsed.taken }

/-- The reaction goes on behind no end of the input and no error. -/
def GivesUp {σ : Type} (react : Token → Step σ) : Prop :=
  ∀ t, t.isLast = true → ∃ node failed, react t = .stop node failed

/-- A token behind which reading goes on is not a last one. -/
theorem GivesUp.isLast_eq_false {σ : Type} {react : Token → Step σ} (h : GivesUp react) {t : Token}
    {state : σ} (hmore : react t = .more state) : t.isLast = false := by
  cases hlast : t.isLast with
  | false => rfl
  | true =>
    obtain ⟨node, failed, hstop⟩ := h t hlast
    rw [hstop] at hmore
    cases hmore

section

variable {σ : Type} {step : σ → Token → Step σ} (hstep : ∀ state, GivesUp (step state))
include hstep

/-- Reading from the tokens to come ends before they are used up. -/
theorem stops_readTree (close : σ → Node) (state : σ) (p : Parser) {s : TokenStream} {fuel : Nat}
    (h : s.weight ≤ fuel) :
    Stops step (step state) s (readTree step close state p (s.takeUpTo fuel)) := by
  induction fuel generalizing state p s with
  | zero => simp [TokenStream.weight] at h
  | succ fuel ih =>
    cases hreact : step state s.next.1 with
    | stop node failed =>
      have htokens : ∃ rest, s.takeUpTo (fuel + 1) = s.next :: rest := ⟨_, rfl⟩
      obtain ⟨rest, hrest⟩ := htokens
      rw [hrest, readTree, hreact]
      exact .now hreact
    | more next =>
      have hmore := (hstep state).isLast_eq_false hreact
      have hlt := TokenStream.weight_next_lt hmore
      rw [TokenStream.takeUpTo_of_not_isLast hmore, readTree, hreact]
      exact .later hreact (ih next _ (by omega))

/-- Reading from what a parser has to come ends. -/
theorem stops_upcoming (close : σ → Node) (state : σ) (p q : Parser) :
    Stops step (step state) p.stream (readTree step close state q p.stream.upcoming) := by
  refine stops_readTree hstep close state q ?_
  unfold TokenStream.weight
  split <;> omega

/-- What has been read when reading ends: one last token at most, and no more than one token for
each unread character and one more. -/
theorem Stops.bounds {react : Token → Step σ} {s : TokenStream} {parsed : Parsed}
    (h : Stops step react s parsed) (hreact : GivesUp react) {source : String} {text : List Char}
    {offset : Nat} (hs : s.UnreadFrom source text offset) :
    (∃ offset', parsed.parser.stream.UnreadFrom source text offset') ∧
      parsed.taken.countP Token.isLast ≤ 1 ∧ parsed.taken.length ≤ text.length - offset + 1 := by
  induction h generalizing offset with
  | now h =>
    obtain ⟨offset', hnext, -⟩ := hs.next
    refine ⟨⟨offset', hnext⟩, ?_, ?_⟩
    · exact List.countP_le_length
    · exact Nat.le_add_left _ _
  | later h rest ih =>
    -- a token behind which reading goes on has taken a character
    have hmore := hreact.isLast_eq_false h
    obtain ⟨offset', hnext, hlt⟩ := hs.next
    obtain ⟨hbehind, hcount, hlength⟩ := ih (hstep _) hnext
    have hoffset := hlt hmore
    have hbound := hnext.le_length
    refine ⟨hbehind, ?_, ?_⟩
    · rw [List.countP_cons_of_neg (by simp [hmore])]
      exact hcount
    · rw [List.length_cons]
      omega

end

/-! ## Requests -/

namespace CallState

/-- What the first token of a phrase does: a name begins a call, a token that is a phrase by itself
is read as a leaf, and every other token is refused. -/
def begin (failed : Bool) (leaf : TokenKind → Option NodeKind) (expected : String) (token : Token) :
    Step CallState :=
  if token.kind = .func then .more (.named token [])
  else match leaf token.kind with
    | some kind => .stop (.leaf kind token) failed
    | none => .stop (errorNode token expected) true

section

variable {failed : Bool} {leaf : TokenKind → Option NodeKind} {expected : String} {token : Token}

theorem begin_of_func (h : token.kind = .func) :
    begin failed leaf expected token = .more (.named token []) := by
  rw [begin, if_pos h]

theorem begin_of_some (hfunc : token.kind ≠ .func) {kind : NodeKind}
    (h : leaf token.kind = some kind) :
    begin failed leaf expected token = .stop (.leaf kind token) failed := by
  rw [begin, if_neg hfunc, h]

theorem begin_of_none (hfunc : token.kind ≠ .func) (h : leaf token.kind = none) :
    begin failed leaf expected token = .stop (errorNode token expected) true := by
  rw [begin, if_neg hfunc, h]

end

theorem givesUp_begin (failed : Bool) (leaf : TokenKind → Option NodeKind) (expected : String) :
    GivesUp (begin failed leaf expected) := by
  intro t hlast
  have hkind : t.kind ≠ .func := by
    intro hfunc
    simp [Token.isLast, hfunc] at hlast
  cases hleaf : leaf t.kind with
  | some kind => exact ⟨_, _, begin_of_some hkind hleaf⟩
  | none => exact ⟨_, _, begin_of_none hkind hleaf⟩

theorem givesUp_step (failed : Bool) (state : CallState) : GivesUp (step failed state) := by
  intro t hlast
  obtain ⟨tree, hstop⟩ := state.step_of_isLast failed hlast
  exact ⟨tree, true, hstop⟩

end CallState

theorem ScriptState.givesUp_step (failed : Bool) (state : ScriptState) :
    GivesUp (step failed state) :=
  fun _ hlast => state.step_of_isLast failed hlast

/-- The tokens that are arguments by themselves. -/
def argumentLeaf : TokenKind → Option NodeKind
  | .field | .literal => some .argument
  | _ => none

/-- The tokens that are statements by themselves. -/
def statementLeaf : TokenKind → Option NodeKind
  | .comment => some .comment
  | _ => none

namespace Parser

/-- What a request reads, if it asks for more than a token. -/
def parsed? (p : Parser) : Request → Option Parsed
  | .next | .peek => none
  | .call => some p.call
  | .argument => some p.argument
  | .statement => some p.statement
  | .script | .check => some p.script

/-- Reading for a request ends, without a bound on the number of tokens, and gives the tokens taken
and the parser behind them. Around a call in the place of an argument the tree has one more node. -/
def Finishes (p : Parser) : Request → Parsed → Prop
  | .next, _ | .peek, _ => False
  | .call, parsed =>
      Stops (CallState.step p.failed)
        (CallState.begin p.failed (fun _ => none) "@function name") p.stream parsed
  | .argument, parsed =>
      ∃ inner, Stops (CallState.step p.failed)
        (CallState.begin p.failed argumentLeaf "a field, string, int, float, json, or expression")
        p.stream { parsed with node := inner }
  | .statement, parsed =>
      Stops (CallState.step p.failed)
        (CallState.begin p.failed statementLeaf "a comment, or a function call expression")
        p.stream parsed
  | .script, parsed | .check, parsed =>
      Stops (ScriptState.step p.failed) (ScriptState.step p.failed .start) p.stream parsed

/-- Reading a call whose name begins it ends. -/
theorem stops_restOfCall (p : Parser) {react : Token → Step CallState}
    (h : react p.next.1 = .more (.named p.next.1 [])) :
    Stops (CallState.step p.failed) react p.stream (p.next.2.restOfCall p.next.1) :=
  .later h (stops_upcoming (CallState.givesUp_step p.failed) CallState.close _ p.next.2 p.next.2)

/-- Reading that refuses the first token ends. -/
theorem stops_refuse (p : Parser) {leaf : TokenKind → Option NodeKind} {expected : String}
    (hfunc : p.next.1.kind ≠ .func) (hleaf : leaf p.next.1.kind = none) :
    Stops (CallState.step p.failed) (CallState.begin p.failed leaf expected) p.stream
      (p.next.2.refuse p.next.1 expected) := by
  have hrefused : CallState.begin p.failed leaf expected p.next.1 =
      .stop (errorNode p.next.1 expected) true := CallState.begin_of_none hfunc hleaf
  exact .now hrefused

/-- Reading a token that is a phrase by itself ends. -/
theorem stops_single (p : Parser) {leaf : TokenKind → Option NodeKind} {expected : String}
    {kind : NodeKind} (hfunc : p.next.1.kind ≠ .func) (hleaf : leaf p.next.1.kind = some kind) :
    Stops (CallState.step p.failed) (CallState.begin p.failed leaf expected) p.stream
      (p.next.2.single (.leaf kind p.next.1) p.next.1) := by
  have hread : CallState.begin p.failed leaf expected p.next.1 =
      .stop (.leaf kind p.next.1) p.failed := CallState.begin_of_some hfunc hleaf
  exact .now hread

theorem finishes_call (p : Parser) : p.Finishes .call p.call := by
  unfold Finishes call
  dsimp only
  split
  · next hfunc => exact p.stops_restOfCall (CallState.begin_of_func hfunc)
  · next hother => exact p.stops_refuse hother rfl

theorem finishes_argument (p : Parser) : p.Finishes .argument p.argument := by
  unfold Finishes argument
  dsimp only
  split
  · next hkind => exact ⟨_, p.stops_single (by simp [hkind]) (by rw [hkind]; rfl)⟩
  · next hkind => exact ⟨_, p.stops_single (by simp [hkind]) (by rw [hkind]; rfl)⟩
  · next hfunc =>
    split
    · exact ⟨_, p.stops_restOfCall (CallState.begin_of_func hfunc)⟩
    · exact ⟨_, p.stops_restOfCall (CallState.begin_of_func hfunc)⟩
  · next hfield hliteral hfunc =>
    have hleaf : argumentLeaf p.next.1.kind = none := by
      unfold argumentLeaf
      split <;> first | contradiction | rfl
    exact ⟨_, p.stops_refuse hfunc hleaf⟩

theorem finishes_statement (p : Parser) : p.Finishes .statement p.statement := by
  unfold Finishes statement
  dsimp only
  split
  · next hkind => exact p.stops_single (by simp [hkind]) (by rw [hkind]; rfl)
  · next hfunc => exact p.stops_restOfCall (CallState.begin_of_func hfunc)
  · next hcomment hfunc =>
    have hleaf : statementLeaf p.next.1.kind = none := by
      unfold statementLeaf
      split <;> first | contradiction | rfl
    exact p.stops_refuse hfunc hleaf

theorem finishes_script (p : Parser) : p.Finishes .script p.script :=
  stops_upcoming (ScriptState.givesUp_step p.failed) ScriptState.close .start p p

/-- Whatever is asked of a parser, reading for it ends. -/
theorem finishes_of_parsed? {p : Parser} {request : Request} {parsed : Parsed}
    (h : p.parsed? request = some parsed) : p.Finishes request parsed := by
  cases request with
  | next => cases h
  | peek => cases h
  | call =>
    cases h
    exact p.finishes_call
  | argument =>
    cases h
    exact p.finishes_argument
  | statement =>
    cases h
    exact p.finishes_statement
  | script =>
    cases h
    exact p.finishes_script
  | check =>
    cases h
    exact p.finishes_script

/-- What a reading that ends has taken, and where it leaves the text. -/
theorem Finishes.bounds {p : Parser} {request : Request} {parsed : Parsed}
    (h : p.Finishes request parsed) {source : String} {text : List Char} {offset : Nat}
    (hs : p.stream.UnreadFrom source text offset) :
    (∃ offset', parsed.parser.stream.UnreadFrom source text offset') ∧
      parsed.taken.countP Token.isLast ≤ 1 ∧ parsed.taken.length ≤ text.length - offset + 1 := by
  have hcall := CallState.givesUp_step p.failed
  have hscript := ScriptState.givesUp_step p.failed
  cases request with
  | next => exact h.elim
  | peek => exact h.elim
  | call => exact Stops.bounds hcall h (CallState.givesUp_begin _ _ _) hs
  | argument =>
    obtain ⟨inner, hinner⟩ := h
    exact Stops.bounds hcall hinner (CallState.givesUp_begin _ _ _) hs
  | statement => exact Stops.bounds hcall h (CallState.givesUp_begin _ _ _) hs
  | script => exact Stops.bounds hscript h (hscript .start) hs
  | check => exact Stops.bounds hscript h (hscript .start) hs

/-- One request leaves the text unread from some offset on. -/
theorem exists_unreadFrom_use {p : Parser} {source : String} {text : List Char} {offset : Nat}
    (h : p.stream.UnreadFrom source text offset) (request : Request) :
    ∃ offset', (p.use request).stream.UnreadFrom source text offset' := by
  cases request with
  | next =>
    obtain ⟨offset', hnext, -⟩ := h.next
    exact ⟨offset', hnext⟩
  | peek => exact h.peek
  | call => exact (p.finishes_call.bounds h).1
  | argument => exact (p.finishes_argument.bounds h).1
  | statement => exact (p.finishes_statement.bounds h).1
  | script => exact (p.finishes_script.bounds h).1
  | check => exact (p.finishes_script.bounds h).1

/-- Requests one after the other leave the text unread from some offset on. -/
theorem exists_unreadFrom_after {p : Parser} {source : String} {text : List Char} {offset : Nat}
    (h : p.stream.UnreadFrom source text offset) (requests : List Request) :
    ∃ offset', (p.after requests).stream.UnreadFrom source text offset' := by
  induction requests generalizing p offset with
  | nil => exact ⟨offset, h⟩
  | cons request requests ih =>
    obtain ⟨offset', huse⟩ := exists_unreadFrom_use h request
    exact ih huse

end Parser

/-- Reading comes to an end. A stream without a failure to report and without a token read ahead
takes some of its text with the next token, or gives the end of the input or a complaint about a
character and then nothing else for ever. Whatever has been asked of a parser over a text, reading a
call, an argument, a statement or a script ends, takes no more than one token that is the end of the
input or an error, and takes at most one token more than there are unread characters. -/
theorem reading_ends :
    (∀ s : TokenStream, s.ahead = none → s.cursor.failure = none → s.Advances ∨ s.Rests) ∧
    ∀ (source : String) (text : List Char) (requests : List Request), ∃ offset,
      ((Parser.ofText source text).after requests).stream.UnreadFrom source text offset ∧
      ∀ request parsed, ((Parser.ofText source text).after requests).parsed? request = some parsed →
        ((Parser.ofText source text).after requests).Finishes request parsed ∧
        parsed.taken.countP Token.isLast ≤ 1 ∧
        parsed.taken.length ≤ (text.drop offset).length + 1 := by
  refine ⟨fun s => TokenStream.advances_or_rests, ?_⟩
  intro source text requests
  have hstart : (Parser.ofText source text).stream.UnreadFrom source text 0 :=
    .clear (Nat.zero_le _)
  obtain ⟨offset, hunread⟩ := Parser.exists_unreadFrom_after hstart requests
  refine ⟨offset, hunread, ?_⟩
  intro request parsed hparsed
  have hfinishes := Parser.finishes_of_parsed? hparsed
  obtain ⟨-, hcount, hlength⟩ := hfinishes.bounds hunread
  rw [List.length_drop]
  exact ⟨hfinishes, hcount, hlength⟩

/-- A question mark begins no token. And a parser that has complained of a stray number and then
looked ahead at the line break reads on from there to the end of the next call. -/
theorem reading_ends_after_complaint :
    ((TokenStream.ofText "t" ['?']).Advances ∨ (TokenStream.ofText "t" ['?']).Rests) ∧
    ∃ offset, ((Parser.ofText "t" strayNumber).after [.check, .peek]).stream.UnreadFrom
        "t" strayNumber offset ∧
      ((Parser.ofText "t" strayNumber).after [.check, .peek]).Finishes .script
        ((Parser.ofText "t" strayNumber).after [.check, .peek]).script ∧
      ((Parser.ofText "t" strayNumber).after [.check, .peek]).script.taken.length ≤
        (strayNumber.drop offset).length + 1 := by
  refine ⟨reading_ends.1 _ rfl rfl, ?_⟩
  obtain ⟨offset, hunread, hall⟩ := reading_ends.2 "t" strayNumber [.check, .peek]
  obtain ⟨hfinishes, -, hlength⟩ := hall .script _ rfl
  exact ⟨offset, hunread, hfinishes, hlength⟩

end CallScript
