/-!
# Splitting and joining

A text is divided at every occurrence of a character, and put together again.
-/

namespace CallScript.Text

/-- Divides a text at every occurrence of a character; the pieces are one more than the
occurrences. -/
def splitAtEvery (sep : Char) : List Char → List (List Char)
  | [] => [[]]
  | c :: rest =>
      if c = sep then [] :: splitAtEvery sep rest
      else match splitAtEvery sep rest with
        | [] => [[c]]
        | piece :: pieces => (c :: piece) :: pieces

/-- Puts a character between the pieces of a text. -/
def joinWith (sep : Char) : List (List Char) → List Char
  | [] => []
  | [piece] => piece
  | piece :: pieces => piece ++ sep :: joinWith sep pieces

/-- There is always a first piece. -/
theorem splitAtEvery_ne_nil (sep : Char) (text : List Char) : splitAtEvery sep text ≠ [] := by
  cases text with
  | nil => simp [splitAtEvery]
  | cons c rest =>
      unfold splitAtEvery
      split
      · simp
      · split <;> simp

/-- Joining the pieces gives the text back. -/
theorem joinWith_splitAtEvery (sep : Char) (text : List Char) :
    joinWith sep (splitAtEvery sep text) = text := by
  induction text with
  | nil => rfl
  | cons c rest ih =>
      unfold splitAtEvery
      split
      · next h =>
          subst h
          match hp : splitAtEvery c rest with
          | [] => exact absurd hp (splitAtEvery_ne_nil c rest)
          | piece :: pieces => simpa [joinWith, hp] using ih
      · match hp : splitAtEvery sep rest with
        | [] => exact absurd hp (splitAtEvery_ne_nil sep rest)
        | [piece] => simpa [joinWith, hp] using ih
        | piece :: next :: pieces => simpa [joinWith, hp] using ih

end CallScript.Text
