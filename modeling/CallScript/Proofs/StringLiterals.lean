import CallScript.Proofs.Layout
import Mathlib.Algebra.Group.Nat.Even

/-!
# Where strings end

A string is read in steps of one character, or of two where a backslash takes the next character
along. Seen from behind, a quote ends the string exactly if an even number of backslashes stands
right before it: the character before these backslashes is no backslash, so a step ends with it, and
the backslashes are taken in pairs. The first such quote is the end of the string, and what the
string says is the text before it with every pair replaced by the character it stands for.
-/

namespace CallScript

namespace Text

/-- How many backslashes stand at the end of a text. -/
def endingBackslashes (text : List Char) : Nat :=
  (text.reverse.takeWhile (· == '\\')).length

/-- The text with every pair of a backslash and the character behind it, taken from left to right,
replaced: by a line feed for `n`, by a carriage return for `r`, and else by the second character. -/
def unescapePairs : List Char → List Char
  | '\\' :: 'n' :: rest => '\n' :: unescapePairs rest
  | '\\' :: 'r' :: rest => '\r' :: unescapePairs rest
  | '\\' :: c :: rest => c :: unescapePairs rest
  | c :: rest => c :: unescapePairs rest
  | [] => []

/-- A pair is replaced by the character that reading gives it. -/
theorem unescapePairs_pair (c : Char) (rest : List Char) :
    unescapePairs ('\\' :: c :: rest) = unescape c :: unescapePairs rest := by
  unfold unescape
  split
  · rfl
  · rfl
  · next hfeed hreturn => rw [unescapePairs.eq_3 c rest hfeed hreturn]

/-- A character other than a backslash is kept. -/
theorem unescapePairs_cons_of_ne {c : Char} (hc : c ≠ '\\') (rest : List Char) :
    unescapePairs (c :: rest) = c :: unescapePairs rest := by
  simp [unescapePairs, hc]

/-- A quote behind the body ends it: an even number of backslashes stands right before the quote. -/
structure ClosesAt (input body after : List Char) : Prop where
  input_eq : input = body ++ '\'' :: after
  even_endingBackslashes : Even (endingBackslashes body)

/-- No quote before the one behind the body ends it. -/
structure ClosesFirstAt (input body after : List Char) : Prop extends ClosesAt input body after where
  length_le : ∀ body' after', ClosesAt input body' after' → body.length ≤ body'.length

/-! ## Counting backslashes from behind -/

/-- Before a first character the backslashes at the end are the same, unless the text is nothing but
backslashes. -/
theorem endingBackslashes_cons (c : Char) (text : List Char) :
    endingBackslashes (c :: text) =
      if c = '\\' ∧ endingBackslashes text = text.length then text.length + 1
      else endingBackslashes text := by
  unfold endingBackslashes
  rw [List.reverse_cons, List.takeWhile_append, List.length_reverse]
  by_cases hall : (text.reverse.takeWhile (· == '\\')).length = text.length
  · by_cases hc : c = '\\'
    · simp [hall, hc]
    · simp [hall, hc]
  · simp [hall]

/-- A first character other than a backslash does not matter. -/
theorem endingBackslashes_cons_of_ne {c : Char} (hc : c ≠ '\\') (text : List Char) :
    endingBackslashes (c :: text) = endingBackslashes text := by
  rw [endingBackslashes_cons, if_neg (fun h => hc h.1)]

/-- There are no more backslashes at the end than characters. -/
theorem endingBackslashes_le (text : List Char) : endingBackslashes text ≤ text.length := by
  have hle := (List.takeWhile_sublist (· == '\\') (l := text.reverse)).length_le
  rwa [List.length_reverse] at hle

/-- A pair in front keeps the backslashes at the end even or odd. -/
theorem even_endingBackslashes_pair (c : Char) (text : List Char) :
    Even (endingBackslashes ('\\' :: c :: text)) ↔ Even (endingBackslashes text) := by
  have hle := endingBackslashes_le text
  by_cases hpair : c = '\\' ∧ endingBackslashes text = text.length
  · obtain ⟨rfl, hall⟩ := hpair
    simp [endingBackslashes_cons, hall, Nat.even_add_one]
  · -- the run of backslashes at the end does not reach the pair
    have hrest : endingBackslashes (c :: text) = endingBackslashes text := by
      rw [endingBackslashes_cons, if_neg hpair]
    have hshort : endingBackslashes (c :: text) ≠ (c :: text).length := by
      rw [hrest, List.length_cons]
      omega
    rw [endingBackslashes_cons, if_neg (fun h => hshort h.2), hrest]

/-! ## Quotes that end a text -/

/-- In an empty text no quote ends anything. -/
theorem not_closesAt_nil (body after : List Char) : ¬ ClosesAt [] body after :=
  fun h => by simpa using h.input_eq

/-- Behind a single backslash no quote ends anything. -/
theorem not_closesAt_backslash (body after : List Char) : ¬ ClosesAt ['\\'] body after := by
  intro h
  cases body with
  | nil => simpa using h.input_eq
  | cons c body => simpa using h.input_eq

/-- A quote at the beginning ends the text before everything else. -/
theorem closesFirstAt_quote (rest : List Char) : ClosesFirstAt ('\'' :: rest) [] rest where
  input_eq := rfl
  even_endingBackslashes := by simp [endingBackslashes]
  length_le := fun _ _ _ => Nat.zero_le _

/-- Behind a character that is neither a quote nor a backslash the same quotes end the text. -/
theorem closesAt_cons_iff {c : Char} (hquote : c ≠ '\'') (hslash : c ≠ '\\')
    {input body after : List Char} :
    ClosesAt (c :: input) body after ↔ ∃ body', body = c :: body' ∧ ClosesAt input body' after := by
  constructor
  · intro h
    obtain ⟨hinput, heven⟩ := h
    cases body with
    | nil => exact absurd (List.cons.inj hinput).1 hquote
    | cons d body' =>
      obtain ⟨rfl, hrest⟩ := List.cons.inj hinput
      rw [endingBackslashes_cons_of_ne hslash] at heven
      exact ⟨body', rfl, hrest, heven⟩
  · intro h
    obtain ⟨body', rfl, hinput, heven⟩ := h
    refine ⟨by rw [hinput, List.cons_append], ?_⟩
    rwa [endingBackslashes_cons_of_ne hslash]

/-- Behind a pair the same quotes end the text, whatever the character of the pair is. -/
theorem closesAt_pair_iff {c : Char} {input body after : List Char} :
    ClosesAt ('\\' :: c :: input) body after ↔
      ∃ body', body = '\\' :: c :: body' ∧ ClosesAt input body' after := by
  constructor
  · intro h
    obtain ⟨hinput, heven⟩ := h
    match body with
    | [] => exact absurd (List.cons.inj hinput).1 (by decide)
    | [d] =>
      -- a quote as the character of the pair has one backslash before it
      obtain ⟨rfl, -⟩ := List.cons.inj hinput
      exact absurd heven (by decide)
    | d :: e :: body' =>
      simp only [List.cons_append, List.cons.injEq] at hinput
      obtain ⟨rfl, rfl, hrest⟩ := hinput
      exact ⟨body', rfl, hrest, (even_endingBackslashes_pair c body').mp heven⟩
  · intro h
    obtain ⟨body', rfl, hinput, heven⟩ := h
    exact ⟨by simp [hinput], (even_endingBackslashes_pair c body').mpr heven⟩

/-- If the same quotes end the text behind a front as without it, then so does the first of them. -/
theorem ClosesFirstAt.behind (front : List Char) {input body after : List Char}
    (hfront : ∀ {body after}, ClosesAt (front ++ input) body after ↔
      ∃ body', body = front ++ body' ∧ ClosesAt input body' after)
    (h : ClosesFirstAt input body after) : ClosesFirstAt (front ++ input) (front ++ body) after where
  toClosesAt := hfront.mpr ⟨body, rfl, h.toClosesAt⟩
  length_le := by
    intro body' after' hcloses
    obtain ⟨rest, rfl, hrest⟩ := hfront.mp hcloses
    have hle := h.length_le rest after' hrest
    simp only [List.length_append]
    omega

/-- Reading steps over characters and pairs up to the first quote that ends the text, and fails
exactly if there is none. -/
theorem readQuoted_cases (input : List Char) :
    (∃ body after, ClosesFirstAt input body after ∧
      readQuoted input = some (unescapePairs body, body ++ ['\''], after)) ∨
    ((∀ body after, ¬ ClosesAt input body after) ∧ readQuoted input = none) := by
  fun_induction readQuoted input with
  | case1 => exact .inr ⟨not_closesAt_nil, rfl⟩
  | case2 rest => exact .inl ⟨[], rest, closesFirstAt_quote rest, rfl⟩
  | case3 => exact .inr ⟨not_closesAt_backslash, rfl⟩
  | case4 c rest ih =>
    rcases ih with ⟨body, after, hfirst, hread⟩ | ⟨hnone, hread⟩
    · refine .inl ⟨'\\' :: c :: body, after, ?_, ?_⟩
      · exact hfirst.behind ['\\', c] closesAt_pair_iff
      · rw [hread, unescapePairs_pair]
        rfl
    · refine .inr ⟨?_, by rw [hread]; rfl⟩
      intro body after hcloses
      obtain ⟨body', -, hrest⟩ := closesAt_pair_iff.mp hcloses
      exact hnone body' after hrest
  | case5 c rest hquote hlone hescape ih =>
    have hslash : c ≠ '\\' := by
      rintro rfl
      cases rest with
      | nil => exact hlone rfl rfl
      | cons d rest => exact hescape d rest rfl rfl
    rcases ih with ⟨body, after, hfirst, hread⟩ | ⟨hnone, hread⟩
    · refine .inl ⟨c :: body, after, ?_, ?_⟩
      · exact hfirst.behind [c] (closesAt_cons_iff hquote hslash)
      · rw [hread, unescapePairs_cons_of_ne hslash]
        rfl
    · refine .inr ⟨?_, by rw [hread]; rfl⟩
      intro body after hcloses
      obtain ⟨body', -, hrest⟩ := (closesAt_cons_iff hquote hslash).mp hcloses
      exact hnone body' after hrest

end Text

/-! ## Strings as tokens -/

/-- A quote begins a string. -/
theorem Lexeme.scan_quote (input : List Char) : scan '\'' input = string input :=
  rfl

/-- Strings end and decode as written. A text that begins with a quote begins with the string up to
the first quote behind it that has an even number of backslashes right before it, if there is one:
the token has the text between the two quotes with every pair replaced, and the text behind the
second quote is left. If there is none, the token is the failure at the first quote, and nothing is
left. -/
theorem string_ends_at_first_even_quote (source : String) (input : List Char) :
    ((∃ body after, Text.ClosesAt input body after) →
      ∃ body after, Text.ClosesFirstAt input body after ∧
        (TokenStream.ofText source ('\'' :: input)).next =
          (⟨Position.start source, .literal, .string (String.ofList (Text.unescapePairs body))⟩,
            TokenStream.reading after
              ((Position.start source).advance ('\'' :: (body ++ ['\'']))))) ∧
    ((¬ ∃ body after, Text.ClosesAt input body after) →
      (TokenStream.ofText source ('\'' :: input)).next =
        (Token.failure (Position.start source) "unterminated string",
          TokenStream.reading [] ((Position.start source).advance ('\'' :: input)))) := by
  rw [TokenStream.next_ofText_cons source rfl, Lexeme.scan_quote, Lexeme.string]
  rcases Text.readQuoted_cases input with ⟨body, after, hfirst, hread⟩ | ⟨hnone, hread⟩
  · rw [hread]
    exact ⟨fun _ => ⟨body, after, hfirst, rfl⟩, fun h => absurd ⟨body, after, hfirst.toClosesAt⟩ h⟩
  · rw [hread]
    refine ⟨fun h => ?_, fun _ => rfl⟩
    obtain ⟨body, after, hcloses⟩ := h
    exact absurd hcloses (hnone body after)

end CallScript
