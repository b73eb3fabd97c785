import CallScript.Proofs.Acceptance
import CallScript.Proofs.Layout
import Mathlib.Data.List.Forall2

/-!
# Joining texts by line breaks

A line break ends every name, number and comment, and strings and JSON literals end with a character
of their own. So no token of a text without errors runs on into a line that is put behind the text:
the tokens of two texts joined by a line break are those of the first, the break in the place of the
end, and those of the second at positions moved down. Hence two accepted texts are accepted together,
and their statements follow each other.
-/

namespace CallScript

/-! ## A line break ends every token -/

/-- Text behind a character outside of the class does not matter to the characters taken. -/
theorem takeWhile_dropWhile_append_cons {p : Char → Bool} {c : Char} (hc : p c = false)
    (text more : List Char) :
    (text ++ c :: more).takeWhile p = text.takeWhile p ∧
      (text ++ c :: more).dropWhile p = text.dropWhile p ++ c :: more := by
  induction text with
  | nil => simp [hc]
  | cons d text ih =>
    cases hd : p d with
    | true => simp [hd, ih]
    | false => simp [hd]

/-- A text with its closing quote is read in the same way whatever follows. -/
theorem Text.readQuoted_append {input text taken after : List Char}
    (h : readQuoted input = some (text, taken, after)) (more : List Char) :
    readQuoted (input ++ more) = some (text, taken, after ++ more) := by
  fun_induction readQuoted input generalizing text taken after with
  | case1 => cases h
  | case2 rest =>
    cases h
    rfl
  | case3 => cases h
  | case4 c rest ih =>
    obtain ⟨⟨text', taken', after'⟩, h', heq⟩ := Option.map_eq_some_iff.mp h
    cases heq
    simp [readQuoted, ih h']
  | case5 c rest hquote hlone hescape ih =>
    obtain ⟨⟨text', taken', after'⟩, h', heq⟩ := Option.map_eq_some_iff.mp h
    cases heq
    have hslash : c ≠ '\\' := by
      rintro rfl
      cases rest with
      | nil => exact hlone rfl rfl
      | cons d rest => exact hescape d rest rfl rfl
    simp [readQuoted, ih h', hslash]

namespace Lexeme

/-- The lexeme with more text behind what it leaves. -/
def followedBy (l : Lexeme) (more : List Char) : Lexeme :=
  { l with rest := l.rest ++ more }

variable {text : List Char} {found : TokenKind × Value}

/-- A comment that is ended stays the same before another line. -/
theorem comment_append_line (h : (comment text).outcome = .ok found) (more : List Char) :
    comment (text ++ '\n' :: more) = (comment text).followedBy ('\n' :: more) := by
  obtain ⟨htake, hdrop⟩ := takeWhile_dropWhile_append_cons (p := (· != '\n')) (c := '\n') rfl text more
  unfold comment at h ⊢
  rw [htake, hdrop]
  cases hrest : text.dropWhile (· != '\n') with
  | nil =>
    rw [hrest] at h
    cases h
  | cons c rest => rfl

/-- A function name stays the same before another line. -/
theorem func_append_line (text more : List Char) :
    func (text ++ '\n' :: more) = (func text).followedBy ('\n' :: more) := by
  obtain ⟨htake, hdrop⟩ := takeWhile_dropWhile_append_cons (p := isNameChar) (c := '\n') rfl text more
  simp only [func, htake, hdrop]
  split
  · rfl
  · rfl

/-- A field path stays the same before another line. -/
theorem field_append_line (text more : List Char) :
    field (text ++ '\n' :: more) = (field text).followedBy ('\n' :: more) := by
  obtain ⟨htake, hdrop⟩ := takeWhile_dropWhile_append_cons (p := isNameChar) (c := '\n') rfl text more
  simp only [field, htake, hdrop]
  rfl

/-- A string that is ended stays the same before more text. -/
theorem string_append (h : (string text).outcome = .ok found) (more : List Char) :
    string (text ++ more) = (string text).followedBy more := by
  unfold string at h ⊢
  cases hread : Text.readQuoted text with
  | none =>
    rw [hread] at h
    cases h
  | some parts =>
    rw [Text.readQuoted_append hread]
    rfl

/-- A JSON literal that is ended stays the same before more text. -/
theorem json_append (h : (json text).outcome = .ok found) (more : List Char) :
    json (text ++ more) = (json text).followedBy more := by
  unfold json at h ⊢
  cases hslice : sliceBraces 0 .plain text with
  | none =>
    rw [hslice] at h
    cases h
  | some parts =>
    rw [sliceBraces_append hslice]
    rfl

/-- The number of a sign and digits, with what it leaves. -/
def numberOf (negative : Bool) (digits rest : List Char) : Lexeme :=
  let spelled := (if negative then ['-'] else []) ++ digits
  if 1 < digits.count '.' then fault (.manyPoints spelled) spelled rest
  else
    match if digits.count '.' = 1 then float negative digits else integer negative digits with
    | .ok value => token .literal value spelled rest
    | .error why => fault (.invalidNumber spelled why) spelled rest

/-- What a number leaves does not matter to it. -/
theorem numberOf_append (negative : Bool) (digits rest more : List Char) :
    numberOf negative digits (rest ++ more) = (numberOf negative digits rest).followedBy more := by
  unfold numberOf
  dsimp only
  split
  · rfl
  · split
    · rfl
    · rfl

/-- A number with its sign and digits told apart. -/
theorem number_eq_numberOf (text : List Char) :
    number text = numberOf (text.head? == some '-') ((unsigned text).takeWhile isNumberChar)
      ((unsigned text).dropWhile isNumberChar) :=
  rfl

/-- The sign of a text stands in its first character, so more text does not matter to it. -/
theorem unsigned_cons_append (c : Char) (text more : List Char) :
    unsigned (c :: text ++ more) = unsigned (c :: text) ++ more := by
  by_cases hsign : c = '-'
  · simp [unsigned, hsign]
  · simp [unsigned, hsign]

/-- A number stays the same before another line. -/
theorem number_append_line (c : Char) (text more : List Char) :
    number (c :: text ++ '\n' :: more) = (number (c :: text)).followedBy ('\n' :: more) := by
  obtain ⟨htake, hdrop⟩ :=
    takeWhile_dropWhile_append_cons (p := isNumberChar) (c := '\n') rfl (unsigned (c :: text)) more
  rw [number_eq_numberOf, number_eq_numberOf, unsigned_cons_append, htake, hdrop]
  exact numberOf_append _ _ _ _

/-- What is a token of its text stays the same before another line. -/
theorem scan_append_line {c : Char} (h : (scan c text).outcome = .ok found) (more : List Char) :
    scan c (text ++ '\n' :: more) = (scan c text).followedBy ('\n' :: more) := by
  unfold scan at h ⊢
  by_cases hline : c = '\n'
  · simp only [if_pos hline]
    rfl
  by_cases hcomment : c = '#'
  · simp only [if_neg hline, if_pos hcomment] at h ⊢
    exact comment_append_line h more
  by_cases hfunc : c = '@'
  · simp only [if_neg hline, if_neg hcomment, if_pos hfunc]
    exact func_append_line text more
  by_cases hjson : c = '\x7b'
  · simp only [if_neg hline, if_neg hcomment, if_neg hfunc, if_pos hjson] at h ⊢
    exact json_append h _
  by_cases hstring : c = '\''
  · simp only [if_neg hline, if_neg hcomment, if_neg hfunc, if_neg hjson, if_pos hstring] at h ⊢
    exact string_append h _
  simp only [if_neg hline, if_neg hcomment, if_neg hfunc, if_neg hjson, if_neg hstring] at h ⊢
  by_cases hnumber : c.isDigit || c == '-'
  · simp only [if_pos hnumber]
    exact number_append_line c text more
  simp only [if_neg hnumber] at h ⊢
  by_cases hopen : c = '('
  · simp only [if_pos hopen]
    rfl
  by_cases hclose : c = ')'
  · simp only [if_neg hopen, if_pos hclose]
    rfl
  by_cases hcomma : c = ','
  · simp only [if_neg hopen, if_neg hclose, if_pos hcomma]
    rfl
  simp only [if_neg hopen, if_neg hclose, if_neg hcomma] at h ⊢
  by_cases hletter : Text.isAlphabetic c
  · simp only [if_pos hletter]
    exact field_append_line (c :: text) more
  · simp only [if_neg hletter] at h
    cases h

end Lexeme

/-! ## Reading on behind a line break -/

namespace Cursor

variable {text rest : List Char} {p p' : Position} {t : Token}

/-- Without a failure to report the next token is the end or what scanning finds behind blanks. -/
theorem next_eq (text : List Char) (p : Position) :
    (text.dropWhile isBlank = [] ∧ next ⟨text, p, none⟩ =
        (⟨p.advance text, .done, .nil⟩, ⟨[], p.advance text, none⟩)) ∨
      ∃ c tail, text.dropWhile isBlank = c :: tail ∧ next ⟨text, p, none⟩ =
        (tokenOf (p.advance (text.takeWhile isBlank)) (Lexeme.scan c tail),
          ⟨(Lexeme.scan c tail).rest,
            (p.advance (text.takeWhile isBlank)).advance (Lexeme.scan c tail).taken, none⟩) := by
  have hsplit : text.takeWhile isBlank ++ text.dropWhile isBlank = text :=
    List.takeWhile_append_dropWhile
  cases hdrop : text.dropWhile isBlank with
  | nil =>
    rw [hdrop, List.append_nil] at hsplit
    refine .inl ⟨rfl, ?_⟩
    simp only [next, hdrop, hsplit]
  | cons c tail =>
    refine .inr ⟨c, tail, rfl, ?_⟩
    simp only [next, hdrop]

/-- Reading a token moves on to the place of what is left. -/
theorem advance_of_next (h : next ⟨text, p, none⟩ = (t, ⟨rest, p', none⟩)) :
    p'.advance rest = p.advance text := by
  rcases next_eq text p with ⟨-, hnext⟩ | ⟨c, tail, hdrop, hnext⟩
  · rw [hnext] at h
    cases h
    rfl
  · rw [hnext] at h
    cases h
    rw [← Position.advance_append, ← Position.advance_append,
      (Lexeme.scan_cuts c tail).taken_append_rest, ← hdrop, List.takeWhile_append_dropWhile]

/-- A token that is not the last one is read in the same way before another line. -/
theorem next_append_line (h : next ⟨text, p, none⟩ = (t, ⟨rest, p', none⟩)) (ht : t.isLast = false)
    (more : List Char) :
    next ⟨text ++ '\n' :: more, p, none⟩ = (t, ⟨rest ++ '\n' :: more, p', none⟩) := by
  obtain ⟨htake, hdrop⟩ := takeWhile_dropWhile_append_cons (p := isBlank) (c := '\n') rfl text more
  rcases next_eq text p with ⟨-, hnext⟩ | ⟨c, tail, htail, hnext⟩
  · rw [hnext] at h
    cases h
    cases ht
  · rw [hnext] at h
    cases h
    obtain ⟨kind, value, hok⟩ := outcome_eq_ok_of_not_isLast ht
    rw [htail] at hdrop
    simp only [next, htake, hdrop, List.cons_append, Lexeme.scan_append_line hok]
    rfl

/-- Where the input ended, a line break is read before another line. -/
theorem next_append_line_of_done (h : next ⟨text, p, none⟩ = (t, ⟨rest, p', none⟩))
    (ht : t.kind = .done) (more : List Char) :
    next ⟨text ++ '\n' :: more, p, none⟩ =
      (⟨p.advance text, .eol, .nil⟩, ⟨more, (p.advance text).step '\n', none⟩) := by
  obtain ⟨htake, hdrop⟩ := takeWhile_dropWhile_append_cons (p := isBlank) (c := '\n') rfl text more
  rcases next_eq text p with ⟨hblank, -⟩ | ⟨c, tail, -, hnext⟩
  · have hsplit : text.takeWhile isBlank ++ text.dropWhile isBlank = text :=
      List.takeWhile_append_dropWhile
    rw [hblank, List.append_nil] at hsplit
    rw [hblank] at hdrop
    simp only [next, htake, hdrop, hsplit, List.nil_append]
    rfl
  · -- what scanning finds is never the end
    rw [hnext] at h
    cases h
    have hkind := (Lexeme.scan_cuts c tail).kind_of_ok
    unfold tokenOf at ht
    split at ht
    · next kind value hok => exact absurd ht (hkind kind value hok).1
    · cases ht

end Cursor

namespace TokenStream

variable {text more : List Char} {p : Position} {t : Token} {ts us : List Token}

/-- The first token of a sequence is the next one, and the others are read behind it. -/
theorem Yields.exists_next (h : (reading text p).Yields (t :: ts)) :
    ∃ rest p', Cursor.next ⟨text, p, none⟩ = (t, ⟨rest, p', none⟩) ∧
      (t.isLast = false → (reading rest p').Yields ts) := by
  have hnext : ∃ first rest p', Cursor.next ⟨text, p, none⟩ = (first, ⟨rest, p', none⟩) := by
    rcases Cursor.next_eq text p with ⟨-, hnext⟩ | ⟨c, tail, -, hnext⟩
    · exact ⟨_, _, _, hnext⟩
    · exact ⟨_, _, _, hnext⟩
  obtain ⟨first, rest, p', hnext⟩ := hnext
  have hstream : (reading text p).next = (first, reading rest p') := by
    simp [reading, next, hnext]
  have hfirst : first = t := by
    cases h with
    | last _ => rw [hstream]
    | more _ _ => rw [hstream]
  subst hfirst
  refine ⟨rest, p', hnext, fun hmore => ?_⟩
  have htail := h.tail hmore
  rwa [hstream] at htail

/-- The tokens of two texts joined by a line break: those of the first up to its end, the line
break, and those of the second from there on. -/
theorem Yields.append_line {done : Token} (h : (reading text p).Yields (ts ++ [done]))
    (hdone : done.kind = .done) (hmore : (reading more ((p.advance text).step '\n')).Yields us) :
    (reading (text ++ '\n' :: more) p).Yields (ts ++ ⟨p.advance text, .eol, .nil⟩ :: us) := by
  induction ts generalizing text p with
  | nil =>
    obtain ⟨rest, p', hnext, -⟩ := h.exists_next
    exact yields_reading_more (Cursor.next_append_line_of_done hnext hdone more) rfl hmore
  | cons t ts ih =>
    have ht : t.isLast = false := by
      cases hlast : t.isLast with
      | false => rfl
      | true => exact absurd (h.eq_nil hlast) (by simp)
    obtain ⟨rest, p', hnext, hrest⟩ := h.exists_next
    rw [← Cursor.advance_of_next hnext] at hmore ⊢
    exact yields_reading_more (Cursor.next_append_line hnext ht more) ht (ih (hrest ht) hmore)

end TokenStream

/-! ## Moving a text -/

/-- The place as many lines further down, in another source. -/
def Position.moved (source : String) (lines : Nat) (p : Position) : Position :=
  ⟨source, p.line + lines, p.column⟩

/-- Moving does not matter to a step. -/
theorem Position.step_moved (source : String) (lines : Nat) (p : Position) (c : Char) :
    (p.moved source lines).step c = (p.step c).moved source lines := by
  unfold step
  split
  · simp only [moved]
    congr 1
    omega
  · rfl

/-- Moving does not matter to advancing over a text. -/
theorem Position.advance_moved (source : String) (lines : Nat) (p : Position) (text : List Char) :
    (p.moved source lines).advance text = (p.advance text).moved source lines := by
  induction text generalizing p with
  | nil => rfl
  | cons c text ih =>
    have hcons : ∀ q : Position, q.advance (c :: text) = (q.step c).advance text := fun _ => rfl
    rw [hcons, hcons, step_moved, ih]

/-- A text behind another and a line break stands as many lines further down as that has. -/
theorem Position.moved_start (source source' : String) (text : List Char) :
    (start source').moved source (text.count '\n' + 1) =
      ((start source).advance text).step '\n' := by
  rw [step, if_pos rfl, line_advance, source_advance]
  rfl

/-- The token at the moved place. -/
def Token.moved (source : String) (lines : Nat) (t : Token) : Token :=
  { t with position := t.position.moved source lines }

/-- A token of the same kind at the moved place, and of the same value unless it is an error, which
is about the same but tells its own place. -/
structure Token.MovesTo (source : String) (lines : Nat) (t t' : Token) : Prop where
  position_eq : t'.position = t.position.moved source lines
  kind_eq : t'.kind = t.kind
  value_eq : t.kind ≠ .error → t'.value = t.value
  failure_eq : t.kind = .error →
    ∃ about, t = Token.failure t.position about ∧ t' = Token.failure t'.position about

/-- A token that is no error moves as it is. -/
theorem Token.MovesTo.eq_moved {source : String} {lines : Nat} {t t' : Token}
    (h : t.MovesTo source lines t') (ht : t.kind ≠ .error) : t' = t.moved source lines := by
  calc
    t' = ⟨t'.position, t'.kind, t'.value⟩ := rfl
    _ = t.moved source lines := by rw [h.position_eq, h.kind_eq, h.value_eq ht, moved]

/-- Tokens without an error among them move as they are. -/
theorem Token.eq_map_moved {source : String} {lines : Nat} {ts ts' : List Token}
    (h : List.Forall₂ (MovesTo source lines) ts ts') (herror : ∀ t ∈ ts, t.kind ≠ .error) :
    ts' = ts.map (moved source lines) := by
  induction h with
  | nil => rfl
  | cons hfirst _ ih =>
    obtain ⟨ht, hts⟩ := List.forall_mem_cons.mp herror
    rw [List.map_cons, ← ih hts, hfirst.eq_moved ht]

/-- A lexeme found at a moved place. -/
theorem Cursor.tokenOf_movesTo {lexeme : Lexeme} {text : List Char} (h : lexeme.Cuts text)
    (source : String) (lines : Nat) (p : Position) :
    (tokenOf p lexeme).MovesTo source lines (tokenOf (p.moved source lines) lexeme) := by
  unfold tokenOf
  split
  · next kind value hok =>
    exact ⟨rfl, rfl, fun _ => rfl, fun herror => absurd herror (h.kind_of_ok kind value hok).2⟩
  · next fault _ => exact ⟨rfl, rfl, fun h => absurd rfl h, fun _ => ⟨fault.message, rfl, rfl⟩⟩

/-- Reading at a moved place reads the moved token. -/
theorem Cursor.exists_next_moved {text rest : List Char} {p p' : Position} {t : Token}
    (h : next ⟨text, p, none⟩ = (t, ⟨rest, p', none⟩)) (source : String) (lines : Nat) :
    ∃ t', t.MovesTo source lines t' ∧
      next ⟨text, p.moved source lines, none⟩ = (t', ⟨rest, p'.moved source lines, none⟩) := by
  rcases next_eq text p with ⟨hblank, hnext⟩ | ⟨c, tail, hdrop, hnext⟩
  · rw [hnext] at h
    cases h
    rcases next_eq text (p.moved source lines) with ⟨-, hmoved⟩ | ⟨c, tail, hdrop, -⟩
    · rw [Position.advance_moved] at hmoved
      exact ⟨⟨(p.advance text).moved source lines, .done, .nil⟩, ⟨rfl, rfl, fun _ => rfl, nofun⟩,
        hmoved⟩
    · rw [hblank] at hdrop
      cases hdrop
  · rw [hnext] at h
    cases h
    refine ⟨_, tokenOf_movesTo (Lexeme.scan_cuts c tail) source lines _, ?_⟩
    simp only [next, hdrop, Position.advance_moved]

/-- The tokens of a text that stands at a moved place are its tokens, moved. -/
theorem TokenStream.Yields.exists_moved {text : List Char} {p : Position} {ts : List Token}
    (h : (reading text p).Yields ts) (source : String) (lines : Nat) :
    ∃ ts', (reading text (p.moved source lines)).Yields ts' ∧
      List.Forall₂ (Token.MovesTo source lines) ts ts' := by
  induction ts generalizing text p with
  | nil => cases h
  | cons t ts ih =>
    obtain ⟨rest, p', hnext, hrest⟩ := h.exists_next
    obtain ⟨t', hmoves, hnext'⟩ := Cursor.exists_next_moved hnext source lines
    have hlast' : t'.isLast = t.isLast := by rw [Token.isLast, Token.isLast, hmoves.kind_eq]
    cases hlast : t.isLast with
    | true =>
      rw [hlast] at hlast'
      rw [h.eq_nil hlast]
      exact ⟨[t'], yields_reading_last hnext' hlast', .cons hmoves .nil⟩
    | false =>
      rw [hlast] at hlast'
      obtain ⟨ts', hyields, hall⟩ := ih (hrest hlast)
      exact ⟨t' :: ts', yields_reading_more hnext' hlast' hyields, .cons hmoves hall⟩

/-! ## Scripts behind each other -/

namespace Grammar

section Replacing

variable {f : Token → Token}

/-- A terminal with its token replaced. -/
def KeepsKinds.terminal (hf : KeepsKinds f) {kind : TokenKind} (t : Terminal kind) : Terminal kind :=
  ⟨f t.1, (hf t.1).trans t.2⟩

mutual

/-- Replacing the tokens of a call replaces them in its tree. -/
theorem CallPhrase.exists_map (hf : KeepsKinds f) (call : CallPhrase) :
    ∃ call' : CallPhrase, call'.tokens = call.tokens.map f ∧ call'.node = call.node.mapTokens f := by
  cases call with
  | bare name left right =>
    exact ⟨.bare (hf.terminal name) (hf.terminal left) (hf.terminal right), rfl, rfl⟩
  | filled name left arguments right =>
    obtain ⟨arguments', htokens, hnodes⟩ := arguments.exists_map hf
    refine ⟨.filled (hf.terminal name) (hf.terminal left) arguments' (hf.terminal right), ?_, ?_⟩
    · rw [CallPhrase.tokens, CallPhrase.tokens, htokens, List.map_cons, List.map_cons, List.map_append]
      rfl
    · rw [CallPhrase.node, CallPhrase.node, hnodes]
      rfl

/-- Replacing the tokens of an argument replaces them in its tree. -/
theorem ArgumentPhrase.exists_map (hf : KeepsKinds f) (argument : ArgumentPhrase) :
    ∃ argument' : ArgumentPhrase, argument'.tokens = argument.tokens.map f ∧
      argument'.node = argument.node.mapTokens f := by
  cases argument with
  | literal token => exact ⟨.literal (hf.terminal token), rfl, rfl⟩
  | field token => exact ⟨.field (hf.terminal token), rfl, rfl⟩
  | call phrase =>
    obtain ⟨phrase', htokens, hnode⟩ := phrase.exists_map hf
    refine ⟨.call phrase', htokens, ?_⟩
    rw [ArgumentPhrase.node, ArgumentPhrase.node, hnode]
    rfl

/-- Replacing the tokens of arguments replaces them in their trees. -/
theorem ArgumentsPhrase.exists_map (hf : KeepsKinds f) (arguments : ArgumentsPhrase) :
    ∃ arguments' : ArgumentsPhrase, arguments'.tokens = arguments.tokens.map f ∧
      arguments'.nodes = Node.mapTokensIn f arguments.nodes := by
  cases arguments with
  | last argument =>
    obtain ⟨argument', htokens, hnode⟩ := argument.exists_map hf
    refine ⟨.last argument', htokens, ?_⟩
    rw [ArgumentsPhrase.nodes, ArgumentsPhrase.nodes, hnode]
    rfl
  | more argument comma rest =>
    obtain ⟨argument', htokens, hnode⟩ := argument.exists_map hf
    obtain ⟨rest', htokens', hnodes⟩ := rest.exists_map hf
    refine ⟨.more argument' (hf.terminal comma) rest', ?_, ?_⟩
    · rw [ArgumentsPhrase.tokens, ArgumentsPhrase.tokens, htokens, htokens', List.map_append]
      rfl
    · rw [ArgumentsPhrase.nodes, ArgumentsPhrase.nodes, hnode, hnodes]
      rfl

end

/-- Replacing the tokens of a line replaces them in its statement. -/
theorem LinePhrase.exists_map (hf : KeepsKinds f) (line : LinePhrase) :
    ∃ line' : LinePhrase, line'.tokens = line.tokens.map f ∧
      line'.nodes = Node.mapTokensIn f line.nodes := by
  cases line with
  | empty => exact ⟨.empty, rfl, rfl⟩
  | comment token => exact ⟨.comment (hf.terminal token), rfl, rfl⟩
  | call phrase =>
    obtain ⟨phrase', htokens, hnode⟩ := phrase.exists_map hf
    refine ⟨.call phrase', htokens, ?_⟩
    rw [LinePhrase.nodes, LinePhrase.nodes, hnode]
    rfl

/-- Replacing the tokens of lines replaces them in their statements. -/
theorem LinesPhrase.exists_map (hf : KeepsKinds f) (lines : LinesPhrase) :
    ∃ lines' : LinesPhrase, lines'.tokens = lines.tokens.map f ∧
      lines'.nodes = Node.mapTokensIn f lines.nodes := by
  induction lines with
  | last line =>
    obtain ⟨line', htokens, hnodes⟩ := line.exists_map hf
    exact ⟨.last line', htokens, hnodes⟩
  | more line eol rest ih =>
    obtain ⟨line', htokens, hnodes⟩ := line.exists_map hf
    obtain ⟨rest', htokens', hnodes'⟩ := ih
    refine ⟨.more line' (hf.terminal eol) rest', ?_, ?_⟩
    · rw [LinesPhrase.tokens, LinesPhrase.tokens, htokens, htokens', List.map_append]
      rfl
    · rw [LinesPhrase.nodes, LinesPhrase.nodes, hnodes, hnodes', Node.mapTokensIn_append]

end Replacing

/-- Lines, a line break, and more lines. -/
def LinesPhrase.append : LinesPhrase → Terminal .eol → LinesPhrase → LinesPhrase
  | .last line, eol, behind => .more line eol behind
  | .more line next rest, eol, behind => .more line next (rest.append eol behind)

/-- The tokens of the lines, of the break and of the lines behind it. -/
theorem LinesPhrase.tokens_append (lines : LinesPhrase) (eol : Terminal .eol)
    (behind : LinesPhrase) :
    (lines.append eol behind).tokens = lines.tokens ++ eol.1 :: behind.tokens := by
  induction lines with
  | last line => rfl
  | more line next rest ih =>
    rw [append, LinesPhrase.tokens, LinesPhrase.tokens, ih, List.append_assoc, List.cons_append]

/-- The statements of the lines and of those behind the break. -/
theorem LinesPhrase.nodes_append (lines : LinesPhrase) (eol : Terminal .eol)
    (behind : LinesPhrase) : (lines.append eol behind).nodes = lines.nodes ++ behind.nodes := by
  induction lines with
  | last line => rfl
  | more line next rest ih => rw [append, LinesPhrase.nodes, LinesPhrase.nodes, ih, List.append_assoc]

end Grammar

open Grammar

/-- What an accepted text consists of: lines up to the end, without an error. -/
theorem exists_lines_of_parseChecked {source : String} {text : List Char} {node : Node}
    (h : parseChecked source text = .ok node) :
    ∃ (lines : LinesPhrase) (done : Terminal .done),
      (TokenStream.reading text (Position.start source)).Yields (lines.tokens ++ [done.1]) ∧
      (∀ t ∈ lines.tokens ++ [done.1], t.kind ≠ .error) ∧ node = .script lines.nodes := by
  have hks := TokenStream.yields_upcoming (TokenStream.ofText source text)
  obtain ⟨script, htokens, rfl⟩ := (parseChecked_eq_ok_iff_exists hks node).mp h
  rw [← htokens] at hks
  exact ⟨script.lines, script.done, hks, script.kind_ne_error, rfl⟩

/-- A text with the tokens of lines up to the end is accepted. -/
theorem parseChecked_of_yields {source : String} {text : List Char} {lines : LinesPhrase}
    {done : Terminal .done}
    (h : (TokenStream.reading text (Position.start source)).Yields (lines.tokens ++ [done.1])) :
    parseChecked source text = .ok (.script lines.nodes) :=
  (parseChecked_eq_ok_iff_exists h _).mpr ⟨⟨lines, done⟩, rfl, rfl⟩

/-- Moving lines moves the tokens of their statements. -/
theorem exists_lines_moved {text : List Char} {p : Position} {lines : LinesPhrase}
    {done : Terminal .done} (h : (TokenStream.reading text p).Yields (lines.tokens ++ [done.1]))
    (herror : ∀ t ∈ lines.tokens ++ [done.1], t.kind ≠ .error) (source : String) (down : Nat) :
    ∃ (lines' : LinesPhrase) (done' : Terminal .done),
      (TokenStream.reading text (p.moved source down)).Yields (lines'.tokens ++ [done'.1]) ∧
      lines'.nodes = Node.mapTokensIn (Token.moved source down) lines.nodes := by
  have hkeeps : KeepsKinds (Token.moved source down) := fun _ => rfl
  obtain ⟨ts', hyields, hmoves⟩ := h.exists_moved source down
  obtain ⟨lines', htokens, hnodes⟩ := lines.exists_map hkeeps
  refine ⟨lines', hkeeps.terminal done, ?_, hnodes⟩
  rw [Token.eq_map_moved hmoves herror, List.map_append, ← htokens] at hyields
  exact hyields

/-- A text that is accepted is accepted as another source, with the same statements there. -/
theorem parseChecked_renamed {source : String} {text : List Char} {node : Node}
    (h : parseChecked source text = .ok node) (source' : String) :
    parseChecked source' text =
      .ok (.script (Node.mapTokensIn (Token.moved source' 0) node.children)) := by
  obtain ⟨lines, done, hyields, herror, rfl⟩ := exists_lines_of_parseChecked h
  obtain ⟨lines', done', hyields', hnodes⟩ := exists_lines_moved hyields herror source' 0
  have hstart : (Position.start source).moved source' 0 = Position.start source' := rfl
  rw [hstart] at hyields'
  rw [parseChecked_of_yields hyields', hnodes]
  rfl

/-- The lines of a text, a line break and the lines of another text are the lines of the joined
text, where those of the other text stand further down. -/
theorem parseChecked_of_lines {source second : String} {text more : List Char}
    {lines lines' : LinesPhrase} {done done' : Terminal .done}
    (h : (TokenStream.reading text (Position.start source)).Yields (lines.tokens ++ [done.1]))
    (h' : (TokenStream.reading more (Position.start second)).Yields (lines'.tokens ++ [done'.1]))
    (herror : ∀ t ∈ lines'.tokens ++ [done'.1], t.kind ≠ .error) :
    parseChecked source (text ++ '\n' :: more) =
      .ok (.script (lines.nodes ++
        Node.mapTokensIn (Token.moved source (text.count '\n' + 1)) lines'.nodes)) := by
  obtain ⟨below, doneBelow, hbelow, hnodes⟩ :=
    exists_lines_moved h' herror source (text.count '\n' + 1)
  rw [Position.moved_start] at hbelow
  obtain ⟨eol, heol⟩ : ∃ eol : Terminal .eol,
      eol.1 = ⟨(Position.start source).advance text, .eol, .nil⟩ := ⟨⟨_, rfl⟩, rfl⟩
  have hjoined := TokenStream.Yields.append_line h done.2 hbelow
  rw [← heol] at hjoined
  have htokens : (lines.append eol below).tokens ++ [doneBelow.1] =
      lines.tokens ++ eol.1 :: (below.tokens ++ [doneBelow.1]) := by
    rw [LinesPhrase.tokens_append, List.append_assoc, List.cons_append]
  rw [← htokens] at hjoined
  rw [parseChecked_of_yields hjoined, LinesPhrase.nodes_append, hnodes]

/-- Two accepted texts joined by a line break are accepted. The statements are those of the first
text followed by those of the second, which stands as many lines further down as the first has, and
the line break behind it. -/
theorem parseChecked_append_line {first second : String} {text more : List Char} {node node' : Node}
    (h : parseChecked first text = .ok node) (h' : parseChecked second more = .ok node')
    (source : String) :
    parseChecked source (text ++ '\n' :: more) =
      .ok (.script (Node.mapTokensIn (Token.moved source 0) node.children ++
        Node.mapTokensIn (Token.moved source (text.count '\n' + 1)) node'.children)) := by
  obtain ⟨lines, done, hyields, herror, rfl⟩ := exists_lines_of_parseChecked h
  obtain ⟨lines', done', hyields', herror', rfl⟩ := exists_lines_of_parseChecked h'
  obtain ⟨above, doneAbove, habove, hnodes⟩ := exists_lines_moved hyields herror source 0
  have hstart : (Position.start first).moved source 0 = Position.start source := rfl
  rw [hstart] at habove
  rw [parseChecked_of_lines habove hyields' herror', hnodes]
  rfl

end CallScript
