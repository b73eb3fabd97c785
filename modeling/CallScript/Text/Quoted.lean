/-!
# Quoted text

A text is written between single quotes, with a backslash before each quote and each backslash, and
with two letters standing for the line breaks. Reading is more liberal than writing: a backslash
gives any other character back as it is, and line breaks may stand in the text.
-/

namespace CallScript.Text

/-- How one character is written between quotes. -/
def quoteChar : Char → List Char
  | '\'' => ['\\', '\'']
  | '\\' => ['\\', '\\']
  | '\n' => ['\\', 'n']
  | '\r' => ['\\', 'r']
  | c => [c]

/-- A text between single quotes. -/
def quote (text : List Char) : List Char :=
  '\'' :: (text.flatMap quoteChar ++ ['\''])

/-- The character that a backslash followed by `c` stands for. -/
def unescape : Char → Char
  | 'n' => '\n'
  | 'r' => '\r'
  | c => c

/-- Reads a quoted text after its opening quote: the text, the characters taken with the closing
quote, and the characters after it; `none` when the closing quote is missing. -/
def readQuoted : List Char → Option (List Char × List Char × List Char)
  | [] => none
  | '\'' :: rest => some ([], ['\''], rest)
  | ['\\'] => none
  | '\\' :: c :: rest =>
      (readQuoted rest).map fun (text, taken, after) => (unescape c :: text, '\\' :: c :: taken, after)
  | c :: rest =>
      (readQuoted rest).map fun (text, taken, after) => (c :: text, c :: taken, after)

/-- Reading splits its input: nothing is lost and nothing is added. -/
theorem readQuoted_split {input text taken after : List Char}
    (h : readQuoted input = some (text, taken, after)) : taken ++ after = input := by
  fun_induction readQuoted input generalizing text taken after with
  | case1 => simp at h
  | case2 rest =>
      simp only [Option.some.injEq, Prod.mk.injEq] at h
      obtain ⟨-, rfl, rfl⟩ := h
      rfl
  | case3 => simp at h
  | case4 c rest ih =>
      obtain ⟨⟨text', taken', after'⟩, h', heq⟩ := Option.map_eq_some_iff.1 h
      simp only [Prod.mk.injEq] at heq
      obtain ⟨-, rfl, rfl⟩ := heq
      simp [ih h']
  | case5 c rest _ _ _ ih =>
      obtain ⟨⟨text', taken', after'⟩, h', heq⟩ := Option.map_eq_some_iff.1 h
      simp only [Prod.mk.injEq] at heq
      obtain ⟨-, rfl, rfl⟩ := heq
      simp [ih h']

end CallScript.Text
