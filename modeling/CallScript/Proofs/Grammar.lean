import CallScript.Tree.Node

/-!
# The grammar of scripts

Derivations of the script grammar, as data over tokens of the required kinds:

* `Script = Line { Eol Line } End`
* `Line = empty | Comment | Expr`
* `Expr = Func OpenParen [ Arg { Comma Arg } ] CloseParen`
* `Arg = Literal | Field | Expr`

A derivation has the tokens it derives and the tree it stands for. Nothing here mentions the
parser. A token sequence has at most one derivation, and whether it has one depends on the kinds
of its tokens only.
-/

namespace CallScript.Grammar

/-- A token of the kind that the grammar asks for. -/
abbrev Terminal (kind : TokenKind) := { t : Token // t.kind = kind }

mutual

/-- A derivation of `Expr`. -/
inductive CallPhrase where
  | bare (name : Terminal .func) (left : Terminal .openParen) (right : Terminal .closeParen)
  | filled (name : Terminal .func) (left : Terminal .openParen) (arguments : ArgumentsPhrase)
      (right : Terminal .closeParen)

/-- A derivation of `Arg`. -/
inductive ArgumentPhrase where
  | literal (token : Terminal .literal)
  | field (token : Terminal .field)
  | call (phrase : CallPhrase)

/-- A derivation of `Arg { Comma Arg }`. -/
inductive ArgumentsPhrase where
  | last (argument : ArgumentPhrase)
  | more (argument : ArgumentPhrase) (comma : Terminal .comma) (rest : ArgumentsPhrase)

end

/-- A derivation of `Line`. -/
inductive LinePhrase where
  | empty
  | comment (token : Terminal .comment)
  | call (phrase : CallPhrase)

/-- A derivation of `Line { Eol Line }`. -/
inductive LinesPhrase where
  | last (line : LinePhrase)
  | more (line : LinePhrase) (eol : Terminal .eol) (rest : LinesPhrase)

/-- A derivation of `Script`. -/
structure ScriptPhrase where
  lines : LinesPhrase
  done : Terminal .done

/-! ## The tokens of a derivation -/

mutual

/-- The tokens of a call. -/
def CallPhrase.tokens : CallPhrase → List Token
  | .bare name left right => [name.1, left.1, right.1]
  | .filled name left arguments right => name.1 :: left.1 :: (arguments.tokens ++ [right.1])

/-- The tokens of an argument. -/
def ArgumentPhrase.tokens : ArgumentPhrase → List Token
  | .literal token => [token.1]
  | .field token => [token.1]
  | .call phrase => phrase.tokens

/-- The tokens of arguments with the commas between them. -/
def ArgumentsPhrase.tokens : ArgumentsPhrase → List Token
  | .last argument => argument.tokens
  | .more argument comma rest => argument.tokens ++ comma.1 :: rest.tokens

end

/-- The tokens of a line without its line break. -/
def LinePhrase.tokens : LinePhrase → List Token
  | .empty => []
  | .comment token => [token.1]
  | .call phrase => phrase.tokens

/-- The tokens of lines with the line breaks between them. -/
def LinesPhrase.tokens : LinesPhrase → List Token
  | .last line => line.tokens
  | .more line eol rest => line.tokens ++ eol.1 :: rest.tokens

/-- The tokens of a script up to its end. -/
def ScriptPhrase.tokens (script : ScriptPhrase) : List Token :=
  script.lines.tokens ++ [script.done.1]

/-! ## The tree of a derivation -/

mutual

/-- The tree of a call: its name and one child for each argument. -/
def CallPhrase.node : CallPhrase → Node
  | .bare name _ _ => .mk .call (some name.1) []
  | .filled name _ arguments _ => .mk .call (some name.1) arguments.nodes

/-- The tree of an argument: a leaf, or a wrapper without a token around a nested call. -/
def ArgumentPhrase.node : ArgumentPhrase → Node
  | .literal token => .leaf .argument token.1
  | .field token => .leaf .argument token.1
  | .call phrase => .nested phrase.node

/-- The trees of arguments in order. -/
def ArgumentsPhrase.nodes : ArgumentsPhrase → List Node
  | .last argument => [argument.node]
  | .more argument _ rest => argument.node :: rest.nodes

end

/-- The statement of a line, if it has one. -/
def LinePhrase.nodes : LinePhrase → List Node
  | .empty => []
  | .comment token => [.leaf .comment token.1]
  | .call phrase => [phrase.node]

/-- The statements of lines in order. -/
def LinesPhrase.nodes : LinesPhrase → List Node
  | .last line => line.nodes
  | .more line _ rest => line.nodes ++ rest.nodes

/-- The tree of a script: a root without a token and one child for each line that is not empty. -/
def ScriptPhrase.node (script : ScriptPhrase) : Node :=
  .script script.lines.nodes

/-! ## A token sequence has at most one derivation -/

/-- Sequences that begin with tokens of different kinds are different. -/
theorem Terminal.cons_ne {kind kind' : TokenKind} (s : Terminal kind) (t : Terminal kind')
    (h : kind ≠ kind') (r r' : List Token) : s.1 :: r ≠ t.1 :: r' := by
  intro heq
  have hst : s.1 = t.1 := (List.cons.inj heq).1
  exact h (by rw [← s.2, ← t.2, hst])

/-- The first token of a call is its name. -/
theorem CallPhrase.tokens_eq_cons (call : CallPhrase) :
    ∃ (name : Terminal .func) (rest : List Token), call.tokens = name.1 :: rest := by
  cases call with
  | bare name left right => exact ⟨name, _, rfl⟩
  | filled name left arguments right => exact ⟨name, _, rfl⟩

/-- The first token of an argument is a literal, a field or a function name. -/
theorem ArgumentPhrase.tokens_eq_cons (argument : ArgumentPhrase) :
    ∃ (first : Token) (rest : List Token), argument.tokens = first :: rest ∧
      (first.kind = .literal ∨ first.kind = .field ∨ first.kind = .func) := by
  cases argument with
  | literal token => exact ⟨token.1, [], rfl, .inl token.2⟩
  | field token => exact ⟨token.1, [], rfl, .inr (.inl token.2)⟩
  | call phrase =>
    obtain ⟨name, rest, hcall⟩ := phrase.tokens_eq_cons
    exact ⟨name.1, rest, hcall, .inr (.inr name.2)⟩

/-- The first of some arguments begins them. -/
theorem ArgumentsPhrase.tokens_eq_cons (arguments : ArgumentsPhrase) :
    ∃ (first : Token) (rest : List Token), arguments.tokens = first :: rest ∧
      (first.kind = .literal ∨ first.kind = .field ∨ first.kind = .func) := by
  cases arguments with
  | last argument => exact argument.tokens_eq_cons
  | more argument comma rest =>
    obtain ⟨first, tail, hfirst, hkind⟩ := argument.tokens_eq_cons
    exact ⟨first, tail ++ comma.1 :: rest.tokens, by simp [tokens, hfirst], hkind⟩

mutual

/-- Where a call ends is decided by the tokens, and so is the call. -/
theorem CallPhrase.eq_of_tokens_append (call call' : CallPhrase) (r r' : List Token)
    (h : call.tokens ++ r = call'.tokens ++ r') : call = call' ∧ r = r' := by
  cases call with
  | bare name left right =>
    cases call' with
    | bare name' left' right' =>
      simp only [CallPhrase.tokens, List.cons_append, List.nil_append, List.cons.injEq] at h
      obtain ⟨hname, hleft, hright, hr⟩ := h
      rw [Subtype.ext hname, Subtype.ext hleft, Subtype.ext hright]
      exact ⟨rfl, hr⟩
    | filled name' left' arguments' right' =>
      obtain ⟨first, rest, hfirst, hkind⟩ := arguments'.tokens_eq_cons
      simp only [CallPhrase.tokens, hfirst, List.cons_append, List.cons.injEq] at h
      rw [← h.2.2.1, right.2] at hkind
      simp at hkind
  | filled name left arguments right =>
    cases call' with
    | bare name' left' right' =>
      obtain ⟨first, rest, hfirst, hkind⟩ := arguments.tokens_eq_cons
      simp only [CallPhrase.tokens, hfirst, List.cons_append, List.cons.injEq] at h
      rw [h.2.2.1, right'.2] at hkind
      simp at hkind
    | filled name' left' arguments' right' =>
      simp only [CallPhrase.tokens, List.cons_append, List.append_assoc, List.nil_append,
        List.cons.injEq] at h
      obtain ⟨hname, hleft, hrest⟩ := h
      obtain ⟨harguments, hright, hr⟩ :=
        arguments.eq_of_tokens_append arguments' right right' r r' hrest
      rw [Subtype.ext hname, Subtype.ext hleft, harguments, hright]
      exact ⟨rfl, hr⟩

/-- Where an argument ends is decided by the tokens, and so is the argument. -/
theorem ArgumentPhrase.eq_of_tokens_append (argument argument' : ArgumentPhrase)
    (r r' : List Token) (h : argument.tokens ++ r = argument'.tokens ++ r') :
    argument = argument' ∧ r = r' := by
  cases argument with
  | literal token =>
    cases argument' with
    | literal token' =>
      obtain ⟨htoken, hr⟩ := List.cons.inj h
      rw [Subtype.ext htoken]
      exact ⟨rfl, hr⟩
    | field token' => exact absurd h (token.cons_ne token' (by decide) _ _)
    | call phrase' =>
      obtain ⟨name, rest, hcall⟩ := phrase'.tokens_eq_cons
      rw [ArgumentPhrase.tokens, ArgumentPhrase.tokens, hcall] at h
      exact absurd h (token.cons_ne name (by decide) _ _)
  | field token =>
    cases argument' with
    | literal token' => exact absurd h (token.cons_ne token' (by decide) _ _)
    | field token' =>
      obtain ⟨htoken, hr⟩ := List.cons.inj h
      rw [Subtype.ext htoken]
      exact ⟨rfl, hr⟩
    | call phrase' =>
      obtain ⟨name, rest, hcall⟩ := phrase'.tokens_eq_cons
      rw [ArgumentPhrase.tokens, ArgumentPhrase.tokens, hcall] at h
      exact absurd h (token.cons_ne name (by decide) _ _)
  | call phrase =>
    obtain ⟨name, rest, hcall⟩ := phrase.tokens_eq_cons
    cases argument' with
    | literal token' =>
      rw [ArgumentPhrase.tokens, ArgumentPhrase.tokens, hcall] at h
      exact absurd h (name.cons_ne token' (by decide) _ _)
    | field token' =>
      rw [ArgumentPhrase.tokens, ArgumentPhrase.tokens, hcall] at h
      exact absurd h (name.cons_ne token' (by decide) _ _)
    | call phrase' =>
      obtain ⟨hphrase, hr⟩ := phrase.eq_of_tokens_append phrase' r r' h
      rw [hphrase]
      exact ⟨rfl, hr⟩

/-- Arguments end at the closing parenthesis behind them, and are decided by the tokens. -/
theorem ArgumentsPhrase.eq_of_tokens_append (arguments arguments' : ArgumentsPhrase)
    (right right' : Terminal .closeParen) (r r' : List Token)
    (h : arguments.tokens ++ right.1 :: r = arguments'.tokens ++ right'.1 :: r') :
    arguments = arguments' ∧ right = right' ∧ r = r' := by
  cases arguments with
  | last argument =>
    cases arguments' with
    | last argument' =>
      obtain ⟨hargument, hrest⟩ := argument.eq_of_tokens_append argument' _ _ h
      obtain ⟨hright, hr⟩ := List.cons.inj hrest
      rw [hargument, Subtype.ext hright]
      exact ⟨rfl, rfl, hr⟩
    | more argument' comma' rest' =>
      simp only [ArgumentsPhrase.tokens, List.append_assoc, List.cons_append] at h
      obtain ⟨-, hrest⟩ := argument.eq_of_tokens_append argument' _ _ h
      exact absurd hrest (right.cons_ne comma' (by decide) _ _)
  | more argument comma rest =>
    cases arguments' with
    | last argument' =>
      simp only [ArgumentsPhrase.tokens, List.append_assoc, List.cons_append] at h
      obtain ⟨-, hrest⟩ := argument.eq_of_tokens_append argument' _ _ h
      exact absurd hrest (comma.cons_ne right' (by decide) _ _)
    | more argument' comma' rest' =>
      simp only [ArgumentsPhrase.tokens, List.append_assoc, List.cons_append] at h
      obtain ⟨hargument, htail⟩ := argument.eq_of_tokens_append argument' _ _ h
      obtain ⟨hcomma, htail⟩ := List.cons.inj htail
      obtain ⟨hrest, hright, hr⟩ := rest.eq_of_tokens_append rest' right right' r r' htail
      rw [hargument, Subtype.ext hcomma, hrest, hright]
      exact ⟨rfl, rfl, hr⟩

end

/-- What follows a line. -/
def EndsLine (t : Token) : Prop :=
  t.kind = .eol ∨ t.kind = .done

/-- A call does not begin with what follows a line. -/
theorem CallPhrase.tokens_append_ne {call : CallPhrase} {t : Token} (ht : EndsLine t)
    (r r' : List Token) : call.tokens ++ r ≠ t :: r' := by
  intro heq
  obtain ⟨name, rest, hcall⟩ := call.tokens_eq_cons
  rw [hcall] at heq
  have hname : name.1 = t := (List.cons.inj heq).1
  rw [EndsLine, ← hname, name.2] at ht
  simp at ht

/-- A comment is not what follows a line. -/
theorem Terminal.comment_cons_ne {token : Terminal .comment} {t : Token} (ht : EndsLine t)
    (r r' : List Token) : token.1 :: r ≠ t :: r' := by
  intro heq
  have htoken : token.1 = t := (List.cons.inj heq).1
  rw [EndsLine, ← htoken, token.2] at ht
  simp at ht

/-- A line is decided by the tokens up to what follows it. -/
theorem LinePhrase.eq_of_tokens_append (line line' : LinePhrase) {t t' : Token}
    (ht : EndsLine t) (ht' : EndsLine t') (r r' : List Token)
    (h : line.tokens ++ t :: r = line'.tokens ++ t' :: r') : line = line' ∧ t = t' ∧ r = r' := by
  cases line with
  | empty =>
    cases line' with
    | empty => exact ⟨rfl, List.cons.inj h⟩
    | comment token' => exact absurd h.symm (Terminal.comment_cons_ne ht _ _)
    | call phrase' => exact absurd h.symm (CallPhrase.tokens_append_ne ht _ _)
  | comment token =>
    cases line' with
    | empty => exact absurd h (Terminal.comment_cons_ne ht' _ _)
    | comment token' =>
      obtain ⟨htoken, hrest⟩ := List.cons.inj h
      rw [Subtype.ext htoken]
      exact ⟨rfl, List.cons.inj hrest⟩
    | call phrase' =>
      obtain ⟨name, rest, hcall⟩ := phrase'.tokens_eq_cons
      rw [LinePhrase.tokens, LinePhrase.tokens, hcall] at h
      exact absurd h (token.cons_ne name (by decide) _ _)
  | call phrase =>
    cases line' with
    | empty => exact absurd h (CallPhrase.tokens_append_ne ht' _ _)
    | comment token' =>
      obtain ⟨name, rest, hcall⟩ := phrase.tokens_eq_cons
      rw [LinePhrase.tokens, LinePhrase.tokens, hcall] at h
      exact absurd h (name.cons_ne token' (by decide) _ _)
    | call phrase' =>
      obtain ⟨hphrase, hrest⟩ := phrase.eq_of_tokens_append phrase' _ _ h
      rw [hphrase]
      exact ⟨rfl, List.cons.inj hrest⟩

/-- Lines up to the end of the input are decided by the tokens. -/
theorem LinesPhrase.eq_of_tokens_append (lines lines' : LinesPhrase) (done done' : Terminal .done)
    (h : lines.tokens ++ [done.1] = lines'.tokens ++ [done'.1]) :
    lines = lines' ∧ done = done' := by
  induction lines generalizing lines' with
  | last line =>
    cases lines' with
    | last line' =>
      obtain ⟨hline, hdone, -⟩ :=
        line.eq_of_tokens_append line' (.inr done.2) (.inr done'.2) _ _ h
      rw [hline, Subtype.ext hdone]
      exact ⟨rfl, rfl⟩
    | more line' eol' rest' =>
      rw [LinesPhrase.tokens, LinesPhrase.tokens, List.append_assoc] at h
      obtain ⟨-, hend, -⟩ :=
        line.eq_of_tokens_append line' (.inr done.2) (.inl eol'.2) _ _ h
      exact absurd (congrArg (· :: []) hend) (done.cons_ne eol' (by decide) _ _)
  | more line eol rest ih =>
    cases lines' with
    | last line' =>
      rw [LinesPhrase.tokens, LinesPhrase.tokens, List.append_assoc] at h
      obtain ⟨-, hend, -⟩ :=
        line.eq_of_tokens_append line' (.inl eol.2) (.inr done'.2) _ _ h
      exact absurd (congrArg (· :: []) hend) (eol.cons_ne done' (by decide) _ _)
    | more line' eol' rest' =>
      rw [LinesPhrase.tokens, LinesPhrase.tokens, List.append_assoc, List.append_assoc] at h
      obtain ⟨hline, heol, hrest⟩ :=
        line.eq_of_tokens_append line' (.inl eol.2) (.inl eol'.2) _ _ h
      obtain ⟨hlines, hdone⟩ := ih rest' hrest
      rw [hline, Subtype.ext heol, hlines, hdone]
      exact ⟨rfl, rfl⟩

/-- The grammar is unambiguous: a token sequence has at most one derivation. -/
theorem ScriptPhrase.eq_of_tokens_eq {script script' : ScriptPhrase}
    (h : script.tokens = script'.tokens) : script = script' := by
  obtain ⟨lines, done⟩ := script
  obtain ⟨lines', done'⟩ := script'
  obtain ⟨hlines, hdone⟩ := lines.eq_of_tokens_append lines' done done' h
  rw [hlines, hdone]

/-! ## Exchanging tokens -/

end CallScript.Grammar

namespace CallScript.Node

mutual

/-- The tree with every token replaced. -/
def mapTokens (f : Token → Token) : Node → Node
  | .mk kind token children => .mk kind (token.map f) (mapTokensIn f children)

/-- The trees of a row with every token replaced. -/
def mapTokensIn (f : Token → Token) : List Node → List Node
  | [] => []
  | node :: nodes => mapTokens f node :: mapTokensIn f nodes

end

/-- Replacing the tokens of rows in a row. -/
theorem mapTokensIn_append (f : Token → Token) (nodes more : List Node) :
    mapTokensIn f (nodes ++ more) = mapTokensIn f nodes ++ mapTokensIn f more := by
  induction nodes with
  | nil => rfl
  | cons node nodes ih => simp [mapTokensIn, ih]

end CallScript.Node

namespace CallScript.Grammar

/-- A replacement of tokens under which tokens of different kinds stay different. -/
def KeepsKinds (f : Token → Token) : Prop :=
  ∀ t, (f t).kind = t.kind

/-- A token that agrees with a terminal after the replacement is a terminal of the same kind. -/
theorem KeepsKinds.exists_terminal {f : Token → Token} (hf : KeepsKinds f) {kind : TokenKind}
    (t : Terminal kind) {t' : Token} (h : f t' = f t.1) : ∃ s : Terminal kind, s.1 = t' := by
  have hkind : t'.kind = kind := by rw [← hf t', h, hf, t.2]
  exact ⟨⟨t', hkind⟩, rfl⟩

section Exchange

variable {f : Token → Token}

mutual

/-- A sequence that agrees with a call after the replacement is a call of the same shape. -/
theorem CallPhrase.exists_of_map_eq (hf : KeepsKinds f) (call : CallPhrase) {ts : List Token}
    (h : ts.map f = call.tokens.map f) :
    ∃ call' : CallPhrase, call'.tokens = ts ∧ call'.node.mapTokens f = call.node.mapTokens f := by
  cases call with
  | bare name left right =>
    simp only [CallPhrase.tokens, List.map_cons, List.map_nil, List.map_eq_cons_iff,
      List.map_eq_nil_iff] at h
    obtain ⟨t₁, _, rfl, h₁, t₂, _, rfl, h₂, t₃, _, rfl, h₃, rfl⟩ := h
    obtain ⟨name', rfl⟩ := hf.exists_terminal name h₁
    obtain ⟨left', rfl⟩ := hf.exists_terminal left h₂
    obtain ⟨right', rfl⟩ := hf.exists_terminal right h₃
    exact ⟨.bare name' left' right', rfl, by simp [CallPhrase.node, Node.mapTokens, h₁]⟩
  | filled name left arguments right =>
    simp only [CallPhrase.tokens, List.map_cons, List.map_append, List.map_nil,
      List.map_eq_cons_iff, List.map_eq_append_iff, List.map_eq_nil_iff] at h
    obtain ⟨t₁, _, rfl, h₁, t₂, _, rfl, h₂, us, _, rfl, hus, t₃, _, rfl, h₃, rfl⟩ := h
    obtain ⟨name', rfl⟩ := hf.exists_terminal name h₁
    obtain ⟨left', rfl⟩ := hf.exists_terminal left h₂
    obtain ⟨right', rfl⟩ := hf.exists_terminal right h₃
    obtain ⟨arguments', rfl, hnodes⟩ := arguments.exists_of_map_eq hf hus
    exact ⟨.filled name' left' arguments' right', rfl,
      by simp [CallPhrase.node, Node.mapTokens, h₁, hnodes]⟩

/-- A sequence that agrees with an argument after the replacement is such an argument. -/
theorem ArgumentPhrase.exists_of_map_eq (hf : KeepsKinds f) (argument : ArgumentPhrase)
    {ts : List Token} (h : ts.map f = argument.tokens.map f) :
    ∃ argument' : ArgumentPhrase, argument'.tokens = ts ∧
      argument'.node.mapTokens f = argument.node.mapTokens f := by
  cases argument with
  | literal token =>
    obtain ⟨t, rfl, ht⟩ := List.map_eq_singleton_iff.mp h
    obtain ⟨token', rfl⟩ := hf.exists_terminal token ht
    exact ⟨.literal token', rfl,
      by simp [ArgumentPhrase.node, Node.leaf, Node.mapTokens, Node.mapTokensIn, ht]⟩
  | field token =>
    obtain ⟨t, rfl, ht⟩ := List.map_eq_singleton_iff.mp h
    obtain ⟨token', rfl⟩ := hf.exists_terminal token ht
    exact ⟨.field token', rfl,
      by simp [ArgumentPhrase.node, Node.leaf, Node.mapTokens, Node.mapTokensIn, ht]⟩
  | call phrase =>
    obtain ⟨phrase', htokens, hnode⟩ := phrase.exists_of_map_eq hf h
    exact ⟨.call phrase', htokens,
      by simp [ArgumentPhrase.node, Node.nested, Node.mapTokens, Node.mapTokensIn, hnode]⟩

/-- A sequence that agrees with some arguments after the replacement is such arguments. -/
theorem ArgumentsPhrase.exists_of_map_eq (hf : KeepsKinds f) (arguments : ArgumentsPhrase)
    {ts : List Token} (h : ts.map f = arguments.tokens.map f) :
    ∃ arguments' : ArgumentsPhrase, arguments'.tokens = ts ∧
      Node.mapTokensIn f arguments'.nodes = Node.mapTokensIn f arguments.nodes := by
  cases arguments with
  | last argument =>
    obtain ⟨argument', htokens, hnode⟩ := argument.exists_of_map_eq hf h
    exact ⟨.last argument', htokens, by simp [ArgumentsPhrase.nodes, Node.mapTokensIn, hnode]⟩
  | more argument comma rest =>
    simp only [ArgumentsPhrase.tokens, List.map_append, List.map_cons, List.map_eq_append_iff,
      List.map_eq_cons_iff] at h
    obtain ⟨us, _, rfl, hus, t, vs, rfl, ht, hvs⟩ := h
    obtain ⟨argument', rfl, hnode⟩ := argument.exists_of_map_eq hf hus
    obtain ⟨comma', rfl⟩ := hf.exists_terminal comma ht
    obtain ⟨rest', rfl, hnodes⟩ := rest.exists_of_map_eq hf hvs
    exact ⟨.more argument' comma' rest', rfl,
      by simp [ArgumentsPhrase.nodes, Node.mapTokensIn, hnode, hnodes]⟩

end

/-- A sequence that agrees with a line after the replacement is such a line. -/
theorem LinePhrase.exists_of_map_eq (hf : KeepsKinds f) (line : LinePhrase) {ts : List Token}
    (h : ts.map f = line.tokens.map f) :
    ∃ line' : LinePhrase, line'.tokens = ts ∧
      Node.mapTokensIn f line'.nodes = Node.mapTokensIn f line.nodes := by
  cases line with
  | empty => exact ⟨.empty, (List.map_eq_nil_iff.mp h).symm, rfl⟩
  | comment token =>
    obtain ⟨t, rfl, ht⟩ := List.map_eq_singleton_iff.mp h
    obtain ⟨token', rfl⟩ := hf.exists_terminal token ht
    exact ⟨.comment token', rfl,
      by simp [LinePhrase.nodes, Node.leaf, Node.mapTokens, Node.mapTokensIn, ht]⟩
  | call phrase =>
    obtain ⟨phrase', htokens, hnode⟩ := phrase.exists_of_map_eq hf h
    exact ⟨.call phrase', htokens, by simp [LinePhrase.nodes, Node.mapTokensIn, hnode]⟩

/-- A sequence that agrees with some lines after the replacement is such lines. -/
theorem LinesPhrase.exists_of_map_eq (hf : KeepsKinds f) (lines : LinesPhrase) {ts : List Token}
    (h : ts.map f = lines.tokens.map f) :
    ∃ lines' : LinesPhrase, lines'.tokens = ts ∧
      Node.mapTokensIn f lines'.nodes = Node.mapTokensIn f lines.nodes := by
  induction lines generalizing ts with
  | last line =>
    obtain ⟨line', htokens, hnodes⟩ := line.exists_of_map_eq hf h
    exact ⟨.last line', htokens, hnodes⟩
  | more line eol rest ih =>
    simp only [LinesPhrase.tokens, List.map_append, List.map_cons, List.map_eq_append_iff,
      List.map_eq_cons_iff] at h
    obtain ⟨us, _, rfl, hus, t, vs, rfl, ht, hvs⟩ := h
    obtain ⟨line', rfl, hline⟩ := line.exists_of_map_eq hf hus
    obtain ⟨eol', rfl⟩ := hf.exists_terminal eol ht
    obtain ⟨rest', rfl, hrest⟩ := ih hvs
    exact ⟨.more line' eol' rest', rfl,
      by simp [LinesPhrase.nodes, Node.mapTokensIn_append, hline, hrest]⟩

/-- A sequence that agrees with a script after a replacement that keeps kinds is a script, and the
trees of the two agree after the replacement. -/
theorem ScriptPhrase.exists_of_map_eq (hf : KeepsKinds f) (script : ScriptPhrase)
    {ts : List Token} (h : ts.map f = script.tokens.map f) :
    ∃ script' : ScriptPhrase, script'.tokens = ts ∧
      script'.node.mapTokens f = script.node.mapTokens f := by
  simp only [ScriptPhrase.tokens, List.map_append, List.map_eq_append_iff] at h
  obtain ⟨us, vs, rfl, hus, hvs⟩ := h
  obtain ⟨t, rfl, ht⟩ := List.map_eq_singleton_iff.mp hvs
  obtain ⟨lines', rfl, hnodes⟩ := script.lines.exists_of_map_eq hf hus
  obtain ⟨done', rfl⟩ := hf.exists_terminal script.done ht
  exact ⟨⟨lines', done'⟩, rfl, by simp [ScriptPhrase.node, Node.script, Node.mapTokens, hnodes]⟩

end Exchange

/-! ## Sentences -/

/-- The kinds of tokens that make a script. -/
def IsSentence (kinds : List TokenKind) : Prop :=
  ∃ script : ScriptPhrase, script.tokens.map Token.kind = kinds

/-- Kinds with which some script begins. -/
def IsViable (kinds : List TokenKind) : Prop :=
  ∃ more, IsSentence (kinds ++ more)

/-- The token without its position and value. -/
def bareToken (t : Token) : Token :=
  ⟨Position.start "", t.kind, .nil⟩

/-- Whether a sequence is a script depends on the kinds of its tokens only. -/
theorem isSentence_map_kind_iff (ts : List Token) :
    IsSentence (ts.map Token.kind) ↔ ∃ script : ScriptPhrase, script.tokens = ts := by
  constructor
  · intro h
    obtain ⟨script, hkinds⟩ := h
    have hkeeps : KeepsKinds bareToken := fun _ => rfl
    have hbare : ts.map bareToken = script.tokens.map bareToken := by
      have hcomp : bareToken = (fun kind => Token.mk (Position.start "") kind .nil) ∘ Token.kind := rfl
      rw [hcomp, ← List.map_map, ← List.map_map, hkinds]
    obtain ⟨script', htokens, -⟩ := script.exists_of_map_eq hkeeps hbare
    exact ⟨script', htokens⟩
  · intro h
    obtain ⟨script, rfl⟩ := h
    exact ⟨script, rfl⟩

/-- Whether a script begins with a sequence depends on the kinds of its tokens only. -/
theorem isViable_map_kind_iff (ts : List Token) :
    IsViable (ts.map Token.kind) ↔
      ∃ (us : List Token) (script : ScriptPhrase), script.tokens = ts ++ us := by
  constructor
  · intro h
    obtain ⟨more, script, hkinds⟩ := h
    obtain ⟨_, us, _, _, rfl⟩ := List.map_eq_append_iff.mp hkinds
    rw [← List.map_append] at hkinds
    exact ⟨us, (isSentence_map_kind_iff (ts ++ us)).mp ⟨script, hkinds⟩⟩
  · intro h
    obtain ⟨us, script, htokens⟩ := h
    exact ⟨us.map Token.kind, script, by rw [htokens, List.map_append]⟩

end CallScript.Grammar
