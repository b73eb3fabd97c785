import CallScript.Proofs.Acceptance
import CallScript.Proofs.Layout

/-!
# Printing and parsing scripts

A script as such, apart from any text: comments and calls, where a call has a name and arguments,
and an argument is a literal, a field or another call. A script has tokens, a text for each choice
of blanks between them, and a tree. Parsing any of its texts gives its tree, up to the positions
of tokens, which only the text can tell.
-/

namespace CallScript

mutual

/-- A call of a function by name. -/
inductive Call where
  | mk (name : FunctionName) (arguments : List Argument)

/-- An argument of a call. -/
inductive Argument where
  | literal (constant : Literal)
  | field (place : FieldReference)
  | call (inner : Call)

end

/-- A statement of a script. -/
inductive Statement where
  | comment (line : CommentText)
  | call (inner : Call)

/-- Statements in order. -/
abbrev Script := List Statement

/-! ## The text of a script -/

mutual

/-- The tokens of a call: its name, and its arguments in parentheses. -/
def Call.spellings : Call → List Spelling
  | .mk name arguments =>
      .function name :: .openParen :: (Argument.rowSpellings arguments ++ [.closeParen])

/-- The tokens of an argument. -/
def Argument.spellings : Argument → List Spelling
  | .literal constant => [.literal constant]
  | .field place => [.field place]
  | .call inner => inner.spellings

/-- The tokens of arguments, divided by commas. -/
def Argument.rowSpellings : List Argument → List Spelling
  | [] => []
  | [argument] => argument.spellings
  | argument :: arguments => argument.spellings ++ .comma :: Argument.rowSpellings arguments

end

/-- The tokens of a statement with the line break that ends it. -/
def Statement.spellings : Statement → List Spelling
  | .comment line => [.comment line, .lineBreak]
  | .call inner => inner.spellings ++ [.lineBreak]

/-- The tokens of a script. -/
def Script.spellings (script : Script) : List Spelling :=
  script.flatMap Statement.spellings

/-- The text of a script, with the given blanks before its tokens. -/
def Script.text (gaps : Nat → Blanks) (script : Script) : List Char :=
  Spelling.layout gaps (Script.spellings script)

/-! ## The tree of a script -/

mutual

/-- The tree of a call: its name and one child for each argument. -/
def Call.node : Call → Node
  | .mk name arguments => .mk .call (some (Spelling.function name).token) (Argument.nodes arguments)

/-- The tree of an argument: a leaf, or a wrapper without a token around a nested call. -/
def Argument.node : Argument → Node
  | .literal constant => .leaf .argument (Spelling.literal constant).token
  | .field place => .leaf .argument (Spelling.field place).token
  | .call inner => .nested inner.node

/-- The trees of arguments in order. -/
def Argument.nodes : List Argument → List Node
  | [] => []
  | argument :: arguments => argument.node :: Argument.nodes arguments

end

/-- The tree of a statement. -/
def Statement.node : Statement → Node
  | .comment line => .leaf .comment (Spelling.comment line).token
  | .call inner => inner.node

/-- The tree of a script: a root without a token and one child for each statement. -/
def Script.node (script : Script) : Node :=
  .script (script.map Statement.node)

/-! ## No token runs into the next -/

open Spelling (EndsWord Separated endsWord_cons)

mutual

/-- The tokens of a call are separated from one another and from what follows. -/
theorem Call.separated_append (call : Call) {row : List Spelling} (hrow : Separated row) :
    Separated (call.spellings ++ row) := by
  cases call with
  | mk name arguments =>
    have hclose : Separated (.closeParen :: row) := ⟨trivial, hrow⟩
    have harguments := Argument.separated_row_append arguments hclose (endsWord_cons rfl row)
    rw [Call.spellings]
    simp only [List.cons_append, List.append_assoc, List.nil_append]
    exact ⟨endsWord_cons rfl _, trivial, harguments⟩

/-- The tokens of an argument are separated from one another and from a mark behind them. -/
theorem Argument.separated_append (argument : Argument) {row : List Spelling}
    (hrow : Separated row) (hend : EndsWord row) : Separated (argument.spellings ++ row) := by
  cases argument with
  | literal constant => exact ⟨hend, hrow⟩
  | field place => exact ⟨hend, hrow⟩
  | call inner => exact inner.separated_append hrow

/-- The tokens of arguments are separated from one another and from a mark behind them. -/
theorem Argument.separated_row_append (arguments : List Argument) {row : List Spelling}
    (hrow : Separated row) (hend : EndsWord row) :
    Separated (Argument.rowSpellings arguments ++ row) := by
  match arguments with
  | [] => exact hrow
  | [argument] => exact argument.separated_append hrow hend
  | argument :: next :: arguments =>
    have hrest := Argument.separated_row_append (next :: arguments) hrow hend
    have hcomma : Separated (.comma :: (Argument.rowSpellings (next :: arguments) ++ row)) :=
      ⟨trivial, hrest⟩
    rw [Argument.rowSpellings, List.append_assoc]
    · exact argument.separated_append hcomma (endsWord_cons rfl _)
    · simp

end

/-- The tokens of a script are separated from one another. -/
theorem Script.separated_spellings (script : Script) : Separated (Script.spellings script) := by
  induction script with
  | nil => trivial
  | cons statement script ih =>
    have hbreak : Separated (.lineBreak :: Script.spellings script) := ⟨trivial, ih⟩
    rw [Script.spellings, List.flatMap_cons]
    cases statement with
    | comment line => exact ⟨rfl, hbreak⟩
    | call inner =>
      rw [Statement.spellings, List.append_assoc]
      exact inner.separated_append hbreak

/-! ## The tokens of a script derive its tree -/

open Grammar

/-- The terminal of a spelling, at no position. -/
def Spelling.terminal (s : Spelling) : Terminal s.kind :=
  ⟨s.token, rfl⟩

mutual

/-- The tokens of a call derive its tree. -/
theorem Call.exists_phrase (call : Call) :
    ∃ phrase : CallPhrase, phrase.tokens = call.spellings.map Spelling.token ∧
      phrase.node = call.node := by
  cases call with
  | mk name arguments =>
    cases arguments with
    | nil =>
      exact ⟨.bare (Spelling.function name).terminal Spelling.openParen.terminal
        Spelling.closeParen.terminal, rfl, rfl⟩
    | cons argument arguments =>
      obtain ⟨row, htokens, hnodes⟩ := Argument.exists_row_phrase (argument :: arguments) (by simp)
      refine ⟨.filled (Spelling.function name).terminal Spelling.openParen.terminal row
        Spelling.closeParen.terminal, ?_, ?_⟩
      · simp [CallPhrase.tokens, Call.spellings, htokens, Spelling.terminal]
      · simp [CallPhrase.node, Call.node, hnodes, Spelling.terminal]

/-- The tokens of an argument derive its tree. -/
theorem Argument.exists_phrase (argument : Argument) :
    ∃ phrase : ArgumentPhrase, phrase.tokens = argument.spellings.map Spelling.token ∧
      phrase.node = argument.node := by
  cases argument with
  | literal constant => exact ⟨.literal (Spelling.literal constant).terminal, rfl, rfl⟩
  | field place => exact ⟨.field (Spelling.field place).terminal, rfl, rfl⟩
  | call inner =>
    obtain ⟨phrase, htokens, hnode⟩ := inner.exists_phrase
    refine ⟨.call phrase, htokens, ?_⟩
    rw [ArgumentPhrase.node, hnode, Argument.node]

/-- The tokens of some arguments derive their trees. -/
theorem Argument.exists_row_phrase (arguments : List Argument) (hne : arguments ≠ []) :
    ∃ phrase : ArgumentsPhrase,
      phrase.tokens = (Argument.rowSpellings arguments).map Spelling.token ∧
      phrase.nodes = Argument.nodes arguments := by
  match arguments with
  | [] => exact absurd rfl hne
  | [argument] =>
    obtain ⟨phrase, htokens, hnode⟩ := argument.exists_phrase
    refine ⟨.last phrase, htokens, ?_⟩
    simp [ArgumentsPhrase.nodes, Argument.nodes, hnode]
  | argument :: next :: arguments =>
    obtain ⟨phrase, htokens, hnode⟩ := argument.exists_phrase
    obtain ⟨row, hrow, hnodes⟩ := Argument.exists_row_phrase (next :: arguments) (by simp)
    refine ⟨.more phrase Spelling.comma.terminal row, ?_, ?_⟩
    · simp [ArgumentsPhrase.tokens, Argument.rowSpellings, htokens, hrow, Spelling.terminal]
    · simp [ArgumentsPhrase.nodes, Argument.nodes, hnode, hnodes]

end

/-- The tokens of a script derive its tree: each statement is a line, and the last line is empty. -/
theorem Script.exists_phrase (script : Script) :
    ∃ lines : LinesPhrase, lines.tokens = (Script.spellings script).map Spelling.token ∧
      lines.nodes = script.map Statement.node := by
  induction script with
  | nil => exact ⟨.last .empty, rfl, rfl⟩
  | cons statement script ih =>
    obtain ⟨lines, htokens, hnodes⟩ := ih
    rw [Script.spellings] at htokens ⊢
    cases statement with
    | comment line =>
      refine ⟨.more (.comment (Spelling.comment line).terminal) Spelling.lineBreak.terminal lines,
        ?_, ?_⟩
      · simp [LinesPhrase.tokens, LinePhrase.tokens, htokens, Spelling.terminal, Statement.spellings]
      · simp [LinesPhrase.nodes, LinePhrase.nodes, hnodes, Spelling.terminal, Statement.node]
    | call inner =>
      obtain ⟨phrase, hphrase, hnode⟩ := inner.exists_phrase
      refine ⟨.more (.call phrase) Spelling.lineBreak.terminal lines, ?_, ?_⟩
      · simp [LinesPhrase.tokens, LinePhrase.tokens, htokens, hphrase, Spelling.terminal,
          Statement.spellings]
      · simp [LinesPhrase.nodes, LinePhrase.nodes, hnodes, hnode, Statement.node]

/-! ## Reading a script -/

mutual

/-- The tokens of a call stand at no position. -/
theorem Call.mapTokens_node (call : Call) : call.node.mapTokens Token.unplaced = call.node := by
  cases call with
  | mk name arguments =>
    rw [Call.node, Node.mapTokens, Argument.mapTokensIn_nodes arguments]
    rfl

/-- The tokens of an argument stand at no position. -/
theorem Argument.mapTokens_node (argument : Argument) :
    argument.node.mapTokens Token.unplaced = argument.node := by
  cases argument with
  | literal constant => rfl
  | field place => rfl
  | call inner =>
    rw [Argument.node, Node.nested, Node.mapTokens, Node.mapTokensIn, inner.mapTokens_node]
    rfl

/-- The tokens of arguments stand at no position. -/
theorem Argument.mapTokensIn_nodes (arguments : List Argument) :
    Node.mapTokensIn Token.unplaced (Argument.nodes arguments) = Argument.nodes arguments := by
  match arguments with
  | [] => rfl
  | argument :: arguments =>
    rw [Argument.nodes, Node.mapTokensIn, argument.mapTokens_node,
      Argument.mapTokensIn_nodes arguments]

end

/-- The tokens of a script stand at no position. -/
theorem Script.mapTokens_node (script : Script) :
    (Script.node script).mapTokens Token.unplaced = Script.node script := by
  have hrow : Node.mapTokensIn Token.unplaced (script.map Statement.node) =
      script.map Statement.node := by
    induction script with
    | nil => rfl
    | cons statement script ih =>
      rw [List.map_cons, Node.mapTokensIn, ih]
      cases statement with
      | comment line => rfl
      | call inner => rw [Statement.node, inner.mapTokens_node]
  rw [Script.node, Node.script, Node.mapTokens, hrow]
  rfl

/-- A layout of separated tokens that derive a tree is accepted with this tree, up to positions. -/
theorem exists_parseChecked_layout (source : String) (gaps : Nat → Blanks) {row : List Spelling}
    (hrow : Separated row) {lines : LinesPhrase}
    (htokens : lines.tokens = row.map Spelling.token) :
    ∃ node, parseChecked source (Spelling.layout gaps row) = .ok node ∧
      node.mapTokens Token.unplaced = (Node.script lines.nodes).mapTokens Token.unplaced := by
  obtain ⟨ks, hyields, hks⟩ := TokenStream.exists_yields_layout source gaps hrow
  have hkeeps : KeepsKinds Token.unplaced := fun _ => rfl
  have hagree : ks.map Token.unplaced =
      (ScriptPhrase.mk lines ⟨Token.finish, rfl⟩).tokens.map Token.unplaced := by
    rw [hks, ScriptPhrase.tokens, htokens, List.map_append, List.map_map]
    rfl
  obtain ⟨script, hscript, hnode⟩ := ScriptPhrase.exists_of_map_eq hkeeps _ hagree
  refine ⟨script.node, ?_, hnode⟩
  exact (parseChecked_eq_ok_iff_exists hyields script.node).mpr ⟨script, hscript, rfl⟩

/-- Printing a script, with any blanks between its tokens, and parsing it gives the script back:
the text is accepted, and its tree is the tree of the script up to the positions of tokens. -/
theorem parseChecked_text (source : String) (script : Script) (gaps : Nat → Blanks) :
    ∃ node, parseChecked source (script.text gaps) = .ok node ∧
      node.mapTokens Token.unplaced = script.node := by
  obtain ⟨lines, htokens, hnodes⟩ := Script.exists_phrase script
  obtain ⟨node, hparse, hnode⟩ :=
    exists_parseChecked_layout source gaps (Script.separated_spellings script) htokens
  refine ⟨node, hparse, ?_⟩
  rw [hnode, hnodes]
  exact Script.mapTokens_node script

end CallScript
