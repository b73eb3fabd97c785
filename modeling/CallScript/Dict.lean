/-!
# Dictionaries

A dictionary is a list of keys with their values. Inserting keeps the keys in increasing order of
their code points, so a dictionary built by insertions shows its entries sorted and has one entry
for each key.
-/

namespace CallScript

/-- Keys with their values. -/
abbrev Dict (α : Type) := List (String × α)

namespace Dict

variable {α : Type}

/-- The value of a key. -/
def get? : Dict α → String → Option α
  | [], _ => none
  | (k, v) :: rest, key => if k = key then some v else get? rest key

/-- Gives a key a value, in place of the one it may have had. -/
def insert : Dict α → String → α → Dict α
  | [], key, value => [(key, value)]
  | (k, v) :: rest, key, value =>
      if key = k then (key, value) :: rest
      else if key < k then (key, value) :: (k, v) :: rest
      else (k, v) :: insert rest key value

/-- The dictionary of a list of entries, of which the last for each key wins. -/
def ofEntries (entries : List (String × α)) : Dict α :=
  entries.foldl (fun d (k, v) => insert d k v) []

/-- Inserting changes the value of its key and of no other. -/
theorem get?_insert (d : Dict α) (key key' : String) (value : α) :
    get? (insert d key value) key' = if key = key' then some value else get? d key' := by
  induction d with
  | nil => simp [insert, get?]
  | cons entry rest ih =>
      obtain ⟨k, v⟩ := entry
      unfold insert
      split
      · next h =>
          subst h
          simp only [get?]
          split <;> rfl
      · split
        · simp [get?]
        · next h _ =>
            simp only [get?, ih]
            split
            · next hk =>
                subst hk
                simp [h]
            · rfl

end Dict

end CallScript
