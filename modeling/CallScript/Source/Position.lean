import CallScript.Decimal.Digits

/-!
# Positions

A position is a line and a column of a named source, both counted from one. Columns count
characters, and a line break is the last character of its line.
-/

namespace CallScript

/-- A place in a source. -/
structure Position where
  source : String
  line : Nat
  column : Nat
  deriving Repr, DecidableEq

namespace Position

/-- The first place of a source. -/
def start (source : String) : Position :=
  ⟨source, 1, 1⟩

/-- The place after one character. -/
def step (p : Position) (c : Char) : Position :=
  if c = '\n' then { p with line := p.line + 1, column := 1 } else { p with column := p.column + 1 }

/-- The place after a text. -/
def advance (p : Position) (text : List Char) : Position :=
  text.foldl step p

/-- A place written as source, line and column. -/
def text (p : Position) : String :=
  p.source ++ ":" ++ String.ofList (Decimal.natText p.line) ++ ":" ++
    String.ofList (Decimal.natText p.column)

/-- A message with the place it is about. -/
def message (p : Position) (about : String) : String :=
  p.text ++ ": " ++ about

@[simp] theorem advance_nil (p : Position) : p.advance [] = p := rfl

/-- Advancing over a text is advancing over its parts one after the other. -/
@[simp] theorem advance_append (p : Position) (s t : List Char) :
    p.advance (s ++ t) = (p.advance s).advance t :=
  List.foldl_append

/-- Advancing never changes the source. -/
@[simp] theorem source_advance (p : Position) (s : List Char) : (p.advance s).source = p.source := by
  induction s generalizing p with
  | nil => rfl
  | cons c s ih =>
      have hstep : (p.step c).source = p.source := by
        unfold step
        split <;> rfl
      exact (ih (p.step c)).trans hstep

/-- Advancing adds one line for each line break. -/
theorem line_advance (p : Position) (s : List Char) :
    (p.advance s).line = p.line + s.count '\n' := by
  induction s generalizing p with
  | nil => rfl
  | cons c s ih =>
      have hcons : p.advance (c :: s) = (p.step c).advance s := rfl
      rw [hcons, ih, List.count_cons]
      unfold step
      by_cases h : c = '\n'
      · simp [h]
        omega
      · simp [h]

end Position

end CallScript
