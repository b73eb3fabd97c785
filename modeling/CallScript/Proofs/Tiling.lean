import CallScript.Proofs.TokenSequence

/-!
# Tokens tile their text

Every token covers a stretch of the text. Between it and the token before it nothing but blanks is
passed over, and where it ends the search for the next one goes on. The position of a token is the
place of its first character, counted from the text alone: a line for each line break before it and
a column for each character since the last of them. In the same way the position of a stream is the
place up to which it has read, whatever mixture of taking and looking ahead has led there.
-/

namespace CallScript

/-! ## Places in a text -/

namespace Position

/-- The place of an offset: its line counts the line breaks before the offset, and its column the
characters since the last of them or since the start. -/
def ofOffset (source : String) (text : List Char) (offset : Nat) : Position where
  source := source
  line := 1 + (text.take offset).count '\n'
  column := 1 + ((text.take offset).reverse.takeWhile (· != '\n')).length

/-- Behind a text the column counts the characters since its last line break. -/
theorem column_advance_start (source : String) (text : List Char) :
    ((start source).advance text).column = 1 + (text.reverse.takeWhile (· != '\n')).length := by
  -- the last character decides, so the induction is on the reversed text
  have hreverse : ∀ back : List Char, ((start source).advance back.reverse).column =
      1 + (back.takeWhile (· != '\n')).length := by
    intro back
    induction back with
    | nil => rfl
    | cons c back ih =>
      have hstep : (start source).advance (c :: back).reverse =
          ((start source).advance back.reverse).step c := by
        rw [List.reverse_cons, advance_append]
        rfl
      rw [hstep]
      unfold step
      by_cases hline : c = '\n'
      · simp [hline]
      · rw [if_neg hline, ih]
        simp [hline]
        omega
  simpa using hreverse text.reverse

/-- The place of an offset is where advancing over the text before it leads. -/
theorem advance_start_take (source : String) (text : List Char) (offset : Nat) :
    (start source).advance (text.take offset) = ofOffset source text offset := by
  have hline := line_advance (start source) (text.take offset)
  have hcolumn := column_advance_start source (text.take offset)
  have hsource := source_advance (start source) (text.take offset)
  generalize (start source).advance (text.take offset) = p at hline hcolumn hsource ⊢
  obtain ⟨source', line, column⟩ := p
  dsimp only at hline hcolumn hsource
  subst hline hcolumn hsource
  rfl

/-- Advancing over the characters at an offset leads to the place behind them. -/
theorem advance_ofOffset (source : String) {text word rest : List Char} {offset : Nat}
    (h : text.drop offset = word ++ rest) :
    (ofOffset source text offset).advance word = ofOffset source text (offset + word.length) := by
  have hword : (text.drop offset).take word.length = word := by rw [h, List.take_left]
  rw [← advance_start_take, ← advance_start_take, ← advance_append, List.take_add, hword]

end Position

/-- Behind the characters at an offset stands what follows them. -/
theorem drop_add_length {text word rest : List Char} {offset : Nat}
    (h : text.drop offset = word ++ rest) : text.drop (offset + word.length) = rest := by
  rw [← List.drop_drop, h, List.drop_left]

/-- The characters at an offset end within the text. -/
theorem add_length_le {text word rest : List Char} {offset : Nat} (hoffset : offset ≤ text.length)
    (h : text.drop offset = word ++ rest) : offset + word.length ≤ text.length := by
  have hlength := congrArg List.length h
  rw [List.length_drop, List.length_append] at hlength
  omega

/-! ## What a token covers -/

/-- Nothing but blanks stands between two offsets, and no blank behind them. -/
structure BlankGap (text : List Char) (last start : Nat) : Prop where
  last_le_start : last ≤ start
  start_le_length : start ≤ text.length
  blank_of_mem : ∀ c ∈ text.extract last start, c = ' ' ∨ c = '\t'
  isBlank_head : ∀ c ∈ (text.drop start).head?, isBlank c = false

/-- The token covers the characters from `start` up to `stop`, with nothing but blanks behind the
offset `last`. A token other than the end of the input and an error covers some character, and the
end of the input is the end of the text. The token is what scanning finds at `start`, where it takes
just the characters covered, and its position is the place of `start`. -/
structure Token.Covers (t : Token) (source : String) (text : List Char) (last start stop : Nat) :
    Prop where
  gap : BlankGap text last start
  start_le_stop : start ≤ stop
  stop_le_length : stop ≤ text.length
  start_lt_stop : t.kind ≠ .done → t.kind ≠ .error → start < stop
  start_eq_length : t.kind = .done → start = text.length
  position_eq : t.position = .ofOffset source text start
  scan_eq : ∀ c rest, text.drop start = c :: rest →
    t = Cursor.tokenOf t.position (Lexeme.scan c rest) ∧
      (Lexeme.scan c rest).taken = text.extract start stop

/-- The blanks at an offset are a gap. -/
theorem blankGap_takeWhile {text : List Char} {offset : Nat} (hoffset : offset ≤ text.length) :
    BlankGap text offset (offset + ((text.drop offset).takeWhile isBlank).length) ∧
      text.drop (offset + ((text.drop offset).takeWhile isBlank).length) =
        (text.drop offset).dropWhile isBlank := by
  have hsplit : text.drop offset =
      (text.drop offset).takeWhile isBlank ++ (text.drop offset).dropWhile isBlank :=
    List.takeWhile_append_dropWhile.symm
  have hdrop := drop_add_length hsplit
  refine ⟨⟨Nat.le_add_right _ _, add_length_le hoffset hsplit, ?_, ?_⟩, hdrop⟩
  · intro c hc
    have hgap : text.extract offset (offset + ((text.drop offset).takeWhile isBlank).length) =
        (text.drop offset).takeWhile isBlank := by
      rw [List.extract_eq_take_drop, Nat.add_sub_cancel_left]
      exact List.prefix_iff_eq_take.mp (List.takeWhile_prefix _) |>.symm
    rw [hgap] at hc
    have hblank := List.all_eq_true.mp List.all_takeWhile c hc
    simpa [isBlank] using hblank
  · rw [hdrop]
    intro c hc
    have hhead := List.head?_dropWhile_not isBlank (text.drop offset)
    rw [Option.mem_def.mp hc] at hhead
    simpa using hhead

/-- A cursor that has read a text up to an offset. -/
def Cursor.ofOffset (source : String) (text : List Char) (offset : Nat) : Cursor :=
  { rest := text.drop offset, position := .ofOffset source text offset }

/-- A lexeme found at a position becomes a token at that position. -/
theorem Cursor.position_tokenOf (position : Position) (lexeme : Lexeme) :
    (tokenOf position lexeme).position = position := by
  unfold tokenOf
  split <;> rfl

/-- No character begins the end of the input. -/
theorem Cursor.kind_tokenOf_scan (position : Position) (c : Char) (rest : List Char) :
    (tokenOf position (Lexeme.scan c rest)).kind ≠ .done := by
  have hkind := (Lexeme.scan_cuts c rest).kind_of_ok
  unfold tokenOf
  split
  · next kind value hok => exact (hkind kind value hok).1
  · simp [Token.failure]

/-- The next token covers characters behind the blanks at an offset, and the cursor behind it has
read up to where it ends. -/
theorem Cursor.exists_covers_next (source : String) {text : List Char} {offset : Nat}
    (hoffset : offset ≤ text.length) :
    ∃ start stop, (ofOffset source text offset).next.1.Covers source text offset start stop ∧
      (ofOffset source text offset).next.2 = ofOffset source text stop := by
  obtain ⟨hgap, hdrop⟩ := blankGap_takeWhile hoffset
  have hstart := Position.advance_ofOffset source
    (List.takeWhile_append_dropWhile (p := isBlank) (l := text.drop offset)).symm
  unfold next
  dsimp only [ofOffset]
  rw [hstart, ← hdrop]
  generalize offset + ((text.drop offset).takeWhile isBlank).length = start at hgap
  cases hrest : text.drop start with
  | nil =>
    have hend : start = text.length :=
      Nat.le_antisymm hgap.start_le_length (List.drop_eq_nil_iff.mp hrest)
    exact ⟨start, start, ⟨hgap, Nat.le_refl _, hgap.start_le_length, by simp, fun _ => hend, rfl,
      by simp [hrest]⟩, by simp [hrest]⟩
  | cons c rest =>
    have hcuts := Lexeme.scan_cuts c rest
    have hword := hrest.trans hcuts.taken_append_rest.symm
    have htaken : text.extract start (start + (Lexeme.scan c rest).taken.length) =
        (Lexeme.scan c rest).taken := by
      rw [List.extract_eq_take_drop, Nat.add_sub_cancel_left, hword, List.take_left]
    refine ⟨start, start + (Lexeme.scan c rest).taken.length, ?_, ?_⟩
    · have hposition := position_tokenOf (.ofOffset source text start) (Lexeme.scan c rest)
      refine ⟨hgap, Nat.le_add_right _ _, add_length_le hgap.start_le_length hword, ?_,
        fun hdone => absurd hdone (kind_tokenOf_scan _ c rest), hposition, ?_⟩
      · intro hdone herror
        have hmore :
            (tokenOf (.ofOffset source text start) (Lexeme.scan c rest)).isLast = false := by
          simp [Token.isLast, hdone, herror]
        obtain ⟨kind, value, hok⟩ := outcome_eq_ok_of_not_isLast hmore
        have hpos := List.length_pos_iff.mpr (hcuts.taken_ne_nil (by simp [hok]))
        omega
      · intro c' rest' hrest'
        rw [hrest] at hrest'
        cases hrest'
        exact ⟨by rw [hposition], htaken.symm⟩
    · simp only [Position.advance_ofOffset source hword, drop_add_length hword]

/-! ## What a stream visits -/

namespace TokenStream

/-- Taking tokens and looking ahead, in any order, leads from one stream to another. -/
inductive Visits (s : TokenStream) : TokenStream → Prop where
  | refl : Visits s s
  | next {t : TokenStream} (before : Visits s t) : Visits s t.next.2
  | peek {t : TokenStream} (before : Visits s t) : Visits s t.peek.2

/-- The stream has read the text up to some offset. -/
def HasRead (s : TokenStream) (source : String) (text : List Char) : Prop :=
  ∃ offset ≤ text.length, s.cursor = .ofOffset source text offset

/-- Taking a token goes on to another offset, or stays if the token had been read ahead. -/
theorem HasRead.next {s : TokenStream} {source : String} {text : List Char}
    (h : s.HasRead source text) : s.next.2.HasRead source text := by
  obtain ⟨offset, hoffset, hcursor⟩ := h
  unfold TokenStream.next
  cases s.ahead with
  | some token => exact ⟨offset, hoffset, hcursor⟩
  | none =>
    obtain ⟨start, stop, hcovers, hstop⟩ := Cursor.exists_covers_next source hoffset
    rw [← hcursor] at hstop
    exact ⟨stop, hcovers.stop_le_length, hstop⟩

/-- Looking ahead reads as far as taking. -/
theorem HasRead.peek {s : TokenStream} {source : String} {text : List Char}
    (h : s.HasRead source text) : s.peek.2.HasRead source text :=
  h.next

/-- Every visited stream has read the text up to some offset. -/
theorem Visits.hasRead {source : String} {text : List Char} {s : TokenStream}
    (h : (ofText source text).Visits s) : s.HasRead source text := by
  induction h with
  | refl => exact ⟨0, Nat.zero_le _, rfl⟩
  | next _ ih => exact ih.next
  | peek _ ih => exact ih.peek

/-- The stream behind the first `n` tokens. -/
def behind (s : TokenStream) : Nat → TokenStream
  | 0 => s
  | n + 1 => (s.behind n).next.2

/-- Taking tokens visits the stream behind them. -/
theorem visits_behind (s : TokenStream) (n : Nat) : s.Visits (s.behind n) := by
  induction n with
  | zero => exact .refl
  | succ n ih => exact .next ih

/-- Behind taken tokens nothing has been read ahead. -/
theorem ahead_behind {s : TokenStream} (h : s.ahead = none) (n : Nat) :
    (s.behind n).ahead = none := by
  cases n with
  | zero => exact h
  | succ n =>
    unfold behind TokenStream.next
    split <;> rfl

/-- The first token taken comes before the tokens behind it. -/
theorem behind_next (s : TokenStream) (n : Nat) : s.next.2.behind n = s.behind (n + 1) := by
  induction n with
  | zero => rfl
  | succ n ih => exact congrArg (fun t : TokenStream => t.next.2) ih

/-- Each token of the sequence is the next one behind those before it. -/
theorem Yields.eq_next_behind {s : TokenStream} {ts : List Token} (h : s.Yields ts) {i : Nat}
    {t : Token} (ht : ts[i]? = some t) : t = (s.behind i).next.1 := by
  induction h generalizing i with
  | last _ =>
    cases i with
    | zero => exact (Option.some.inj ht).symm
    | succ i => simp at ht
  | more _ _ ih =>
    cases i with
    | zero => exact (Option.some.inj ht).symm
    | succ i =>
      rw [← behind_next]
      exact ih ht

/-- How much of a text a stream has read. -/
def offset (text : List Char) (s : TokenStream) : Nat :=
  text.length - s.cursor.rest.length

/-- The offset of a stream is the one its cursor stands at. -/
theorem offset_eq {source : String} {text : List Char} {s : TokenStream} {n : Nat}
    (hn : n ≤ text.length) (h : s.cursor = .ofOffset source text n) : s.offset text = n := by
  rw [offset, h, Cursor.ofOffset, List.length_drop]
  omega

/-- Each token covers characters between the offset behind the tokens before it and the offset
behind itself, up to which the text has then been read. -/
theorem exists_covers_behind (source : String) (text : List Char) (i : Nat) :
    ∃ start, ((ofText source text).behind i).next.1.Covers source text
        (((ofText source text).behind i).offset text) start
        (((ofText source text).behind (i + 1)).offset text) ∧
      ((ofText source text).behind (i + 1)).cursor.rest =
        text.drop (((ofText source text).behind (i + 1)).offset text) := by
  obtain ⟨n, hn, hcursor⟩ := (visits_behind (ofText source text) i).hasRead
  obtain ⟨start, stop, hcovers, hstop⟩ := Cursor.exists_covers_next source hn
  have hnext : ((ofText source text).behind i).next =
      ((Cursor.ofOffset source text n).next.1, { cursor := .ofOffset source text stop }) := by
    rw [← hstop, ← hcursor]
    unfold TokenStream.next
    rw [ahead_behind rfl i]
  have hbehind : (ofText source text).behind (i + 1) = { cursor := .ofOffset source text stop } :=
    congrArg Prod.snd hnext
  rw [hnext, hbehind, offset_eq hn hcursor, offset_eq hcovers.stop_le_length rfl]
  exact ⟨start, hcovers, rfl⟩

/-- Tokens tile the text, and all positions are exact. The tokens up to the end or the first error
lie one after the other: the `i`-th covers the characters from `start i` up to `stop (i + 1)`, where
`stop i` is the end of those before it, and taking it leaves the text behind `stop (i + 1)` unread.
Every stream that is visited by taking tokens and looking ahead stands at the place of the offset up
to which it has read. -/
theorem tokens_tile_text (source : String) (text : List Char) :
    (∃ ks, (ofText source text).Yields ks ∧
      ∃ start stop : Nat → Nat, stop 0 = 0 ∧ ∀ i t, ks[i]? = some t →
        t.Covers source text (stop i) (start i) (stop (i + 1)) ∧
          ((ofText source text).behind (i + 1)).cursor.rest = text.drop (stop (i + 1))) ∧
    ∀ s, (ofText source text).Visits s → ∃ offset ≤ text.length,
      s.cursor.rest = text.drop offset ∧ s.position = .ofOffset source text offset := by
  refine ⟨⟨_, yields_upcoming _, ?_⟩, ?_⟩
  · obtain ⟨start, hstart⟩ := Classical.axiomOfChoice (exists_covers_behind source text)
    refine ⟨start, fun i => ((ofText source text).behind i).offset text,
      offset_eq (Nat.zero_le _) rfl, fun i t ht => ?_⟩
    rw [(yields_upcoming _).eq_next_behind ht]
    exact hstart i
  · intro s hs
    obtain ⟨offset, hoffset, hcursor⟩ := hs.hasRead
    refine ⟨offset, hoffset, by rw [hcursor]; rfl, ?_⟩
    rw [position, hcursor]
    rfl

end TokenStream

end CallScript
