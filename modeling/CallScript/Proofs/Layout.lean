import CallScript.Proofs.Spelling
import CallScript.Proofs.TokenSequence

/-!
# Laying out tokens

A row of tokens is laid out by writing their spellings one after the other, with any blanks before
each of them and before the end. Only between a comment and its line break no blanks may stand,
since they would belong to the comment. If every word is followed by a mark and every comment by a
line break, then reading the laid out text gives the row back, with nothing but positions added.
-/

namespace CallScript

/-- Spaces and tabs, perhaps none. -/
abbrev Blanks := { cs : List Char // ∀ c ∈ cs, isBlank c = true }

/-- No blanks at all. -/
def Blanks.none : Blanks :=
  ⟨[], nofun⟩

/-- The token with its position forgotten. -/
def Token.unplaced (t : Token) : Token :=
  { t with position := Position.start "" }

/-- The end of the input at no position. -/
def Token.finish : Token :=
  ⟨Position.start "", .done, .nil⟩

namespace Spelling

/-- The token at no position. -/
def token (s : Spelling) : Token :=
  ⟨Position.start "", s.kind, s.value⟩

/-- The blanks behind a token: as given, but none behind a comment. -/
def blanksBehind : Spelling → Blanks → Blanks
  | .comment _, _ => Blanks.none
  | _, gap => gap

/-- The spellings of a row of tokens, each with its blanks behind it. -/
def spelled (gaps : Nat → Blanks) : Nat → List Spelling → List Char
  | _, [] => []
  | i, s :: row => s.text ++ ((s.blanksBehind (gaps i)).1 ++ spelled gaps (i + 1) row)

/-- A row of tokens with blanks before each of them and before the end. -/
def layout (gaps : Nat → Blanks) (row : List Spelling) : List Char :=
  (gaps 0).1 ++ spelled gaps 1 row

/-- Whether a token is a mark, which ends the word before it. -/
def isMark : Spelling → Bool
  | .openParen | .closeParen | .comma | .lineBreak => true
  | _ => false

/-- The row may follow a word: it is empty or begins with a mark. -/
def EndsWord (row : List Spelling) : Prop :=
  ∀ next ∈ row.head?, next.isMark = true

/-- Behind a word comes a mark or the end, and behind a comment a line break. -/
def AllowsBehind : Spelling → List Spelling → Prop
  | .function _, row | .field _, row | .literal _, row => EndsWord row
  | .comment _, row => row.head? = some .lineBreak
  | _, _ => True

/-- No token of the row runs into the one behind it. -/
def Separated : List Spelling → Prop
  | [] => True
  | s :: row => s.AllowsBehind row ∧ Separated row

/-- A row that begins with a mark may follow a word. -/
theorem endsWord_cons {mark : Spelling} (h : mark.isMark = true) (row : List Spelling) :
    EndsWord (mark :: row) := by
  intro next hnext
  cases hnext
  exact h

/-- The first character of a mark ends a word. -/
theorem endsWord_of_isMark {s : Spelling} (h : s.isMark = true) (rest : List Char) :
    Lexeme.EndsWord (s.text ++ rest) := by
  cases s <;> first | contradiction | (intro c hc; cases hc; rfl)

/-- Blanks end a word. -/
theorem endsWord_blanks (gap : Blanks) {rest : List Char} (h : Lexeme.EndsWord rest) :
    Lexeme.EndsWord (gap.1 ++ rest) := by
  obtain ⟨cs, hblank⟩ := gap
  cases cs with
  | nil => exact h
  | cons c cs =>
    intro d hd
    have hc := hblank c List.mem_cons_self
    cases hd
    simp only [isBlank, Bool.or_eq_true, beq_iff_eq] at hc
    rcases hc with rfl | rfl
    · rfl
    · rfl

/-- A word is ended by blanks and the mark behind them, or by the end of the text. -/
theorem endsWord_spelled (gaps : Nat → Blanks) (i : Nat) {row : List Spelling}
    (h : EndsWord row) : Lexeme.EndsWord (spelled gaps i row) := by
  cases row with
  | nil => exact nofun
  | cons next row => exact endsWord_of_isMark (h next rfl) _

/-- What is laid out behind a token fits it. -/
theorem AllowsBehind.fits {s : Spelling} {row : List Spelling} (h : s.AllowsBehind row)
    (gaps : Nat → Blanks) (i : Nat) :
    s.Fits ((s.blanksBehind (gaps i)).1 ++ spelled gaps (i + 1) row) := by
  cases s with
  | function name => exact endsWord_blanks _ (endsWord_spelled gaps (i + 1) h)
  | field place => exact endsWord_blanks _ (endsWord_spelled gaps (i + 1) h)
  | literal constant => exact endsWord_blanks _ (endsWord_spelled gaps (i + 1) h)
  | comment line =>
    obtain ⟨more, rfl⟩ := List.head?_eq_some_iff.mp h
    exact ⟨_, rfl⟩
  | openParen => trivial
  | closeParen => trivial
  | comma => trivial
  | lineBreak => trivial

/-- Without blanks a row of tokens is laid out as its spellings in a row. -/
theorem layout_none (row : List Spelling) :
    layout (fun _ => Blanks.none) row = row.flatMap Spelling.text := by
  have hspelled : ∀ i, spelled (fun _ => Blanks.none) i row = row.flatMap Spelling.text := by
    induction row with
    | nil => exact fun _ => rfl
    | cons s row ih =>
      intro i
      have hblanks : s.blanksBehind Blanks.none = Blanks.none := by cases s <;> rfl
      rw [spelled, hblanks, ih, List.flatMap_cons]
      rfl
  exact hspelled 1

end Spelling

/-! ## Reading a layout -/

/-- Blanks are skipped, and a spelling behind them is read back. -/
theorem Cursor.next_of_readsBack {s : Spelling} {rest : List Char} (h : s.ReadsBack rest)
    (gap : Blanks) (position : Position) :
    next ⟨gap.1 ++ (s.text ++ rest), position, none⟩ =
      (⟨position.advance gap.1, s.kind, s.value⟩,
        ⟨rest, (position.advance gap.1).advance s.text, none⟩) := by
  obtain ⟨c, tail, htext, hscan⟩ := h
  have hfirst : ∀ d ∈ (c :: tail).head?, isBlank d = false := by
    intro d hd
    cases hd
    exact Lexeme.isBlank_eq_false_of_scan hscan
  obtain ⟨htake, hdrop⟩ := takeWhile_dropWhile_append gap.2 hfirst
  simp only [next, htext, htake, hdrop, hscan]
  rfl

/-- Behind blanks the input ends. -/
theorem Cursor.next_of_blanks (gap : Blanks) (position : Position) :
    next ⟨gap.1, position, none⟩ =
      (⟨position.advance gap.1, .done, .nil⟩, ⟨[], position.advance gap.1, none⟩) := by
  have hrest : ∀ c ∈ ([] : List Char).head?, isBlank c = false := nofun
  obtain ⟨htake, hdrop⟩ := takeWhile_dropWhile_append gap.2 hrest
  rw [List.append_nil] at htake hdrop
  simp only [next, htake, hdrop]

/-- A spelled token does not end the sequence. -/
theorem Spelling.isLast_eq_false (s : Spelling) (position : Position) :
    Token.isLast ⟨position, s.kind, s.value⟩ = false := by
  cases s <;> rfl

/-- A stream over the characters from a position on. -/
def TokenStream.reading (text : List Char) (position : Position) : TokenStream :=
  { cursor := ⟨text, position, none⟩ }

/-- A text that begins with no blank begins with the token that scanning finds there. -/
theorem TokenStream.next_ofText_cons (source : String) {c : Char} (hc : isBlank c = false)
    (rest : List Char) :
    (ofText source (c :: rest)).next =
      (Cursor.tokenOf (Position.start source) (Lexeme.scan c rest),
        reading (Lexeme.scan c rest).rest
          ((Position.start source).advance (Lexeme.scan c rest).taken)) := by
  simp [ofText, next, Cursor.next, reading, hc]

/-- A stream that reads the last token yields it alone. -/
theorem TokenStream.yields_reading_last {text rest : List Char} {position position' : Position}
    {t : Token} (hnext : Cursor.next ⟨text, position, none⟩ = (t, ⟨rest, position', none⟩))
    (ht : t.isLast = true) : (reading text position).Yields [t] := by
  have hstream : (reading text position).next = (t, reading rest position') := by
    simp [reading, next, hnext]
  have hlast : (reading text position).next.1.isLast = true := by rwa [hstream]
  have hyields := Yields.last hlast
  rwa [hstream] at hyields

/-- A stream that reads another token yields it and then what is read behind it. -/
theorem TokenStream.yields_reading_more {text rest : List Char} {position position' : Position}
    {t : Token} {ts : List Token}
    (hnext : Cursor.next ⟨text, position, none⟩ = (t, ⟨rest, position', none⟩))
    (ht : t.isLast = false) (hrest : (reading rest position').Yields ts) :
    (reading text position).Yields (t :: ts) := by
  have hstream : (reading text position).next = (t, reading rest position') := by
    simp [reading, next, hnext]
  have hmore : (reading text position).next.1.isLast = false := by rwa [hstream]
  have htail : (reading text position).next.2.Yields ts := by rwa [hstream]
  have hyields := Yields.more hmore htail
  rwa [hstream] at hyields

/-- Reading a laid out row from anywhere in a source gives its tokens and then the end. -/
theorem TokenStream.exists_yields_spelled (gaps : Nat → Blanks) {row : List Spelling}
    (h : Spelling.Separated row) (i : Nat) (gap : Blanks) (position : Position) :
    ∃ ks, (reading (gap.1 ++ Spelling.spelled gaps i row) position).Yields ks ∧
      ks.map Token.unplaced = row.map Spelling.token ++ [Token.finish] := by
  induction row generalizing i gap position with
  | nil =>
    have hnext := Cursor.next_of_blanks gap position
    refine ⟨[⟨position.advance gap.1, .done, .nil⟩], ?_, rfl⟩
    rw [Spelling.spelled, List.append_nil]
    exact yields_reading_last hnext rfl
  | cons s row ih =>
    obtain ⟨hbehind, hrow⟩ := h
    have hread := s.readsBack (hbehind.fits gaps i)
    have hnext := Cursor.next_of_readsBack hread gap position
    -- the blanks behind this token are the blanks before the next one
    obtain ⟨ks, hyields, hks⟩ := ih hrow (i + 1) (s.blanksBehind (gaps i))
      ((position.advance gap.1).advance s.text)
    refine ⟨_ :: ks, yields_reading_more hnext (s.isLast_eq_false _) hyields, ?_⟩
    rw [List.map_cons, hks]
    rfl

/-- Reading a layout of separated tokens gives these tokens, up to positions, and then the end. -/
theorem TokenStream.exists_yields_layout (source : String) (gaps : Nat → Blanks)
    {row : List Spelling} (h : Spelling.Separated row) :
    ∃ ks, (ofText source (Spelling.layout gaps row)).Yields ks ∧
      ks.map Token.unplaced = row.map Spelling.token ++ [Token.finish] :=
  exists_yields_spelled gaps h 1 (gaps 0) (Position.start source)

end CallScript
