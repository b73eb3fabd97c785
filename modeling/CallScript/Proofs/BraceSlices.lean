import CallScript.Proofs.Layout

/-!
# Where JSON literals end

A JSON literal is the shortest stretch of text in which opening and closing braces are balanced.
Braces count outside of double quotes only, and inside of them a backslash takes the next character
along. The slicer counts the open braces and stops when none is left. Its counter is followed here
as an integer, which could go below zero: up to the last character that the slicer takes, it never
falls below one, so that every closing brace closes an open one.
-/

namespace CallScript

namespace Lexeme.BraceState

/-- Where a character leads: a double quote leads into quotes or out of them, and a backslash in
quotes escapes the character behind it. -/
def step : BraceState → Char → BraceState
  | .plain, c => if c = '"' then .quoted else .plain
  | .quoted, c => if c = '\\' then .escaped else if c = '"' then .plain else .quoted
  | .escaped, _ => .quoted

/-- Where a text leads. -/
def behind (state : BraceState) (text : List Char) : BraceState :=
  text.foldl step state

/-- The characters of a text that stand outside of double quotes. -/
def outside : BraceState → List Char → List Char
  | _, [] => []
  | .plain, c :: text => c :: outside (step .plain c) text
  | .quoted, c :: text => outside (step .quoted c) text
  | .escaped, c :: text => outside (step .escaped c) text

end Lexeme.BraceState

open Lexeme (BraceState)

/-- The text ends outside of double quotes, and outside of them it has as many opening as closing
braces. -/
structure IsBalanced (text : List Char) : Prop where
  behind_eq : BraceState.plain.behind text = .plain
  count_eq : (BraceState.plain.outside text).count '\x7b' =
    (BraceState.plain.outside text).count '\x7d'

/-- The shortest balanced text, apart from the empty one, with which a text begins. -/
structure IsShortestBalanced (text span after : List Char) : Prop where
  text_eq : text = span ++ after
  ne_nil : span ≠ []
  isBalanced : IsBalanced span
  length_le : ∀ other, other <+: text → other ≠ [] → IsBalanced other → span.length ≤ other.length

/-! ## Counting open braces -/

/-- How many braces are open, as an integer that may go below zero, and whether in quotes. -/
structure BraceCount where
  depth : Int
  state : BraceState

namespace BraceCount

/-- Nothing is open at the start. -/
def start : BraceCount :=
  ⟨0, .plain⟩

/-- Counts one character. -/
def step (k : BraceCount) (c : Char) : BraceCount where
  depth :=
    if k.state = .plain then
      if c = '\x7b' then k.depth + 1 else if c = '\x7d' then k.depth - 1 else k.depth
    else k.depth
  state := k.state.step c

/-- Counts the characters of a text. -/
def pass (k : BraceCount) (text : List Char) : BraceCount :=
  text.foldl step k

/-- Counting begins with the first character. -/
theorem pass_cons (k : BraceCount) (c : Char) (text : List Char) :
    k.pass (c :: text) = (k.step c).pass text :=
  rfl

/-- Counting goes up at the opening and down at the closing braces outside of quotes. -/
theorem pass_eq (k : BraceCount) (text : List Char) :
    k.pass text = ⟨k.depth + (k.state.outside text).count '\x7b' -
      (k.state.outside text).count '\x7d', k.state.behind text⟩ := by
  induction text generalizing k with
  | nil => simp [pass, BraceState.outside, BraceState.behind]
  | cons c text ih =>
    obtain ⟨depth, state⟩ := k
    have hbehind : state.behind (c :: text) = (state.step c).behind text := rfl
    rw [pass_cons, ih, hbehind]
    cases state with
    | plain =>
      by_cases hopen : c = '\x7b'
      · simp [step, BraceState.outside, hopen]
        omega
      by_cases hclose : c = '\x7d'
      · simp [step, BraceState.outside, hclose]
        omega
      simp [step, BraceState.outside, hopen, hclose]
    | quoted => simp [step, BraceState.outside]
    | escaped => simp [step, BraceState.outside]

/-- A text is balanced if counting it leads back to the start. -/
theorem isBalanced_iff {text : List Char} : IsBalanced text ↔ start.pass text = start := by
  simp only [pass_eq, start, BraceCount.mk.injEq]
  constructor
  · intro h
    obtain ⟨hbehind, hcount⟩ := h
    exact ⟨by omega, hbehind⟩
  · intro h
    obtain ⟨hcount, hbehind⟩ := h
    exact ⟨hbehind, by omega⟩

/-- Where a brace is open the text is not balanced. -/
theorem not_isBalanced {text : List Char} (h : 1 ≤ (start.pass text).depth) : ¬ IsBalanced text := by
  intro hbalanced
  rw [isBalanced_iff.mp hbalanced] at h
  exact absurd h (by decide)

/-- A balanced text is the shortest one if a brace is open everywhere inside of it. -/
theorem isShortestBalanced {span : List Char} (hne : span ≠ []) (hstart : start.pass span = start)
    (hopen : ∀ front, front <+: span → front ≠ [] → front ≠ span → 1 ≤ (start.pass front).depth)
    (after : List Char) : IsShortestBalanced (span ++ after) span after where
  text_eq := rfl
  ne_nil := hne
  isBalanced := isBalanced_iff.mpr hstart
  length_le := by
    intro other hother hsome hbalanced
    rcases Nat.lt_or_ge other.length span.length with hlt | hle
    · have hinside : other <+: span :=
        List.prefix_of_prefix_length_le hother (List.prefix_append span after) (Nat.le_of_lt hlt)
      have hproper : other ≠ span := by
        intro heq
        rw [heq] at hlt
        exact Nat.lt_irrefl _ hlt
      exact absurd hbalanced (not_isBalanced (hopen other hinside hsome hproper))
    · exact hle

end BraceCount

/-! ## The slicer counts open braces -/

namespace Lexeme

/-- One step of the slicer, whose depth leaves the first brace out: it stops if counting the
character leaves no brace open, and else goes on with what counting leads to. -/
theorem sliceBraces_step (depth : Nat) (state : BraceState) (c : Char) :
    (BraceCount.step ⟨depth + 1, state⟩ c = .start ∧
      ∀ text, sliceBraces depth state (c :: text) = some ([c], text)) ∨
    ∃ (depth' : Nat) (state' : BraceState),
      BraceCount.step ⟨depth + 1, state⟩ c = ⟨depth' + 1, state'⟩ ∧
      ∀ text, sliceBraces depth state (c :: text) =
        (sliceBraces depth' state' text).map fun (taken, rest) => (c :: taken, rest) := by
  cases state with
  | plain =>
    by_cases hclose : c = '\x7d'
    · subst hclose
      cases depth with
      | zero => exact .inl ⟨rfl, fun _ => rfl⟩
      | succ depth => exact .inr ⟨depth, .plain, by simp [BraceCount.step, BraceState.step], fun _ => rfl⟩
    by_cases hopen : c = '\x7b'
    · subst hopen
      exact .inr ⟨depth + 1, .plain, rfl, fun _ => rfl⟩
    refine .inr ⟨depth, BraceState.plain.step c, ?_, ?_⟩
    · simp [BraceCount.step, hopen, hclose]
    · intro text
      simp [sliceBraces, hopen, hclose, BraceState.step]
  | quoted => exact .inr ⟨depth, BraceState.quoted.step c, rfl, fun _ => rfl⟩
  | escaped => exact .inr ⟨depth, .quoted, rfl, fun _ => rfl⟩

/-- A text with which another begins is empty, or begins with the same character. -/
theorem forall_isPrefix_cons {p : List Char → Prop} {c : Char} {text : List Char} (hnil : p [])
    (hcons : ∀ front, front <+: text → p (c :: front)) : ∀ front, front <+: c :: text → p front := by
  intro front hfront
  rcases List.prefix_cons_iff.mp hfront with rfl | ⟨front', rfl, hfront'⟩
  · exact hnil
  · exact hcons front' hfront'

/-- The run of the slicer: it takes the characters up to the first place where counting leaves no
brace open, and everywhere before that place at least one is. -/
theorem sliceBraces_cases (depth : Nat) (state : BraceState) (text : List Char) :
    (∃ taken rest, sliceBraces depth state text = some (taken, rest) ∧ text = taken ++ rest ∧
      BraceCount.pass ⟨depth + 1, state⟩ taken = .start ∧
      ∀ front, front <+: taken → front ≠ taken →
        1 ≤ (BraceCount.pass ⟨depth + 1, state⟩ front).depth) ∨
    (sliceBraces depth state text = none ∧
      ∀ front, front <+: text → 1 ≤ (BraceCount.pass ⟨depth + 1, state⟩ front).depth) := by
  have hdepth : ∀ depth : Nat, (1 : Int) ≤ depth + 1 := fun depth => by omega
  induction text generalizing depth state with
  | nil =>
    refine .inr ⟨rfl, fun front hfront => ?_⟩
    rw [List.prefix_nil.mp hfront]
    exact hdepth depth
  | cons c text ih =>
    rcases sliceBraces_step depth state c with ⟨hstep, hslice⟩ | ⟨depth', state', hstep, hslice⟩
    · refine .inl ⟨[c], text, hslice text, rfl, hstep, ?_⟩
      refine forall_isPrefix_cons (fun _ => hdepth depth) fun front hfront hne => ?_
      rw [List.prefix_nil.mp hfront] at hne
      exact absurd rfl hne
    · rcases ih depth' state' with ⟨taken, rest, hrest, rfl, hstart, hfronts⟩ | ⟨hrest, hfronts⟩
      · refine .inl ⟨c :: taken, rest, by rw [hslice, hrest]; rfl, rfl,
          by rw [BraceCount.pass_cons, hstep, hstart], ?_⟩
        refine forall_isPrefix_cons (fun _ => hdepth depth) fun front hfront hne => ?_
        rw [BraceCount.pass_cons, hstep]
        exact hfronts front hfront fun heq => hne (by rw [heq])
      · refine .inr ⟨by rw [hslice, hrest]; rfl, ?_⟩
        refine forall_isPrefix_cons (hdepth depth) fun front hfront => ?_
        rw [BraceCount.pass_cons, hstep]
        exact hfronts front hfront

/-- While a brace is open everywhere, the slicer stands where counting leads. -/
theorem sliceBraces_append_of_open {depth : Nat} {state : BraceState} {text : List Char}
    (h : ∀ front, front <+: text → 1 ≤ (BraceCount.pass ⟨depth + 1, state⟩ front).depth) :
    ∃ (depth' : Nat) (state' : BraceState),
      BraceCount.pass ⟨depth + 1, state⟩ text = ⟨depth' + 1, state'⟩ ∧
      ∀ more, sliceBraces depth state (text ++ more) =
        (sliceBraces depth' state' more).map fun (taken, rest) => (text ++ taken, rest) := by
  induction text generalizing depth state with
  | nil => exact ⟨depth, state, rfl, fun more => by simp⟩
  | cons c text ih =>
    rcases sliceBraces_step depth state c with ⟨hstep, -⟩ | ⟨depth₁, state₁, hstep, hslice⟩
    · -- counting the character would leave no brace open
      have hopen := h [c] (by simp)
      rw [show BraceCount.pass ⟨depth + 1, state⟩ [c] = .start from hstep] at hopen
      exact absurd hopen (by decide)
    · have hfronts : ∀ front, front <+: text →
          1 ≤ (BraceCount.pass ⟨depth₁ + 1, state₁⟩ front).depth := by
        intro front hfront
        rw [← hstep, ← BraceCount.pass_cons]
        exact h (c :: front) (List.cons_prefix_cons.mpr ⟨rfl, hfront⟩)
      obtain ⟨depth', state', htext, hmore⟩ := ih hfronts
      refine ⟨depth', state', by rw [BraceCount.pass_cons, hstep, htext], fun more => ?_⟩
      rw [List.cons_append, hslice, hmore, Option.map_map]
      rfl

/-- Behind the text the slicer, begun behind the first brace, goes on with so many braces open
besides the first, and in that state. -/
def GoesOn (text : List Char) (depth : Nat) (state : BraceState) : Prop :=
  ∀ more, sliceBraces 0 .plain (text ++ more) =
    (sliceBraces depth state more).map fun (taken, rest) => (text ++ taken, rest)

/-- What begins with a brace is a literal, which is the shortest balanced text, or a fault that takes
all of the text. In both cases a brace is open behind all that has been taken before the end. -/
theorem json_cases (rest : List Char) :
    (∃ span after, IsShortestBalanced ('\x7b' :: rest) span after ∧
      json rest = token .literal (.json (Text.Utf8.encode span)) span after ∧
      ∀ front, front <+: span → front ≠ [] → front ≠ span →
        1 ≤ (BraceCount.start.pass front).depth) ∨
    (json rest = fault .unterminatedJson ('\x7b' :: rest) [] ∧
      ∀ front, front <+: '\x7b' :: rest → front ≠ [] → 1 ≤ (BraceCount.start.pass front).depth) := by
  have hpass : ∀ front, BraceCount.start.pass ('\x7b' :: front) =
      BraceCount.pass ⟨(0 : Nat) + 1, .plain⟩ front := fun _ => rfl
  rcases sliceBraces_cases 0 .plain rest with
    ⟨taken, after, hslice, rfl, hstart, hfronts⟩ | ⟨hslice, hfronts⟩
  · have hopen : ∀ front, front <+: '\x7b' :: taken → front ≠ [] → front ≠ '\x7b' :: taken →
        1 ≤ (BraceCount.start.pass front).depth := by
      refine forall_isPrefix_cons (fun h => absurd rfl h) fun front hfront _ hne => ?_
      rw [hpass]
      exact hfronts front hfront fun heq => hne (by rw [heq])
    refine .inl ⟨'\x7b' :: taken, after, ?_, by rw [json, hslice], hopen⟩
    exact BraceCount.isShortestBalanced (by simp) (by rw [hpass, hstart]) hopen after
  · refine .inr ⟨by rw [json, hslice], ?_⟩
    refine forall_isPrefix_cons (fun h => absurd rfl h) fun front hfront _ => ?_
    rw [hpass]
    exact hfronts front hfront

/-- Before each character that is taken, the first one apart, the slicer stands where counting leads,
with one brace open or more. -/
theorem exists_goesOn {rest before after : List Char} {c : Char}
    (h : (json rest).taken = '\x7b' :: (before ++ c :: after)) :
    ∃ (depth : Nat) (state : BraceState),
      BraceCount.start.pass ('\x7b' :: before) = ⟨depth + 1, state⟩ ∧ GoesOn before depth state := by
  have hproper : ∀ front, front <+: before → '\x7b' :: front <+: (json rest).taken ∧
      '\x7b' :: front ≠ (json rest).taken := by
    intro front hfront
    rw [h]
    refine ⟨List.cons_prefix_cons.mpr ⟨rfl, hfront.trans (List.prefix_append _ _)⟩, ?_⟩
    intro heq
    have hlength := congrArg List.length heq
    have hle := hfront.length_le
    simp only [List.length_cons, List.length_append] at hlength
    omega
  have hopen : ∀ front, front <+: before →
      1 ≤ (BraceCount.pass ⟨(0 : Nat) + 1, .plain⟩ front).depth := by
    intro front hfront
    obtain ⟨hbegins, hne⟩ := hproper front hfront
    rcases json_cases rest with ⟨span, after', -, hjson, hspan⟩ | ⟨hjson, htext⟩
    · rw [hjson] at hbegins hne
      exact hspan _ hbegins (by simp) hne
    · rw [hjson] at hbegins
      exact htext _ hbegins (by simp)
  exact sliceBraces_append_of_open hopen

/-- An opening brace begins a JSON literal. -/
theorem scan_brace (rest : List Char) : scan '\x7b' rest = json rest :=
  rfl

end Lexeme

/-- JSON literals are sliced exactly. A text that begins with a brace begins with the shortest
balanced text, if it begins with a balanced one at all: that is the first token, with exactly its
bytes, and the text behind it is left. If there is none, the token is the failure at the brace, and
nothing is left. Before each character that the slicer takes behind the first, the braces that are
open are counted by its depth and the first one, so that no closing brace finds none open. -/
theorem json_literal_is_shortest_balanced (source : String) (rest : List Char) :
    ((∃ span, span <+: '\x7b' :: rest ∧ span ≠ [] ∧ IsBalanced span) →
      ∃ span after, IsShortestBalanced ('\x7b' :: rest) span after ∧
        (TokenStream.ofText source ('\x7b' :: rest)).next =
          (⟨Position.start source, .literal, .json (Text.Utf8.encode span)⟩,
            TokenStream.reading after ((Position.start source).advance span))) ∧
    ((¬ ∃ span, span <+: '\x7b' :: rest ∧ span ≠ [] ∧ IsBalanced span) →
      (TokenStream.ofText source ('\x7b' :: rest)).next =
        (Token.failure (Position.start source) "unterminated JSON literal",
          TokenStream.reading [] ((Position.start source).advance ('\x7b' :: rest)))) ∧
    ∀ before c after, (Lexeme.scan '\x7b' rest).taken = '\x7b' :: (before ++ c :: after) →
      ∃ (depth : Nat) (state : BraceState),
        BraceCount.start.pass ('\x7b' :: before) = ⟨depth + 1, state⟩ ∧
          Lexeme.GoesOn before depth state := by
  rw [TokenStream.next_ofText_cons source rfl, Lexeme.scan_brace]
  refine ⟨?_, ?_, fun before c after => Lexeme.exists_goesOn⟩
  · intro h
    rcases Lexeme.json_cases rest with ⟨span, after, hshortest, hjson, -⟩ | ⟨-, hopen⟩
    · exact ⟨span, after, hshortest, by rw [hjson]; rfl⟩
    · obtain ⟨span, hbegins, hne, hbalanced⟩ := h
      exact absurd hbalanced (BraceCount.not_isBalanced (hopen span hbegins hne))
  · intro h
    rcases Lexeme.json_cases rest with ⟨span, after, hshortest, -, -⟩ | ⟨hjson, -⟩
    · have hbegins : span <+: '\x7b' :: rest := ⟨after, hshortest.text_eq.symm⟩
      exact absurd ⟨span, hbegins, hshortest.ne_nil, hshortest.isBalanced⟩ h
    · rw [hjson]
      rfl

end CallScript
