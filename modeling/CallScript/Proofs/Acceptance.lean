import Mathlib.Logic.ExistsUnique
import CallScript.Proofs.Grammar
import CallScript.Proofs.ParserRun

/-!
# The parser accepts exactly the grammar

For every state of the parser, `Completes` says which tokens complete it to which tree, in terms of
derivations alone. One step of the parser takes one token off the front: a state is completed by a
token and the tokens behind it exactly if the state after the token is completed by those. A run is
a row of such steps, so the parser accepts what completes its first state, and that is a script of
the grammar with the tree of its derivation.
-/

namespace CallScript

open Grammar

/-! ## What completes a call -/

/-- A derivation of `{ Comma Arg } CloseParen`: what follows an argument. -/
inductive Grammar.ArgumentsTail where
  | close (right : Terminal .closeParen)
  | more (comma : Terminal .comma) (arguments : ArgumentsPhrase) (right : Terminal .closeParen)

namespace Grammar.ArgumentsTail

/-- The tokens behind an argument. -/
def tokens : ArgumentsTail → List Token
  | .close right => [right.1]
  | .more comma arguments right => comma.1 :: (arguments.tokens ++ [right.1])

/-- The trees of the arguments behind an argument. -/
def nodes : ArgumentsTail → List Node
  | .close _ => []
  | .more _ arguments _ => arguments.nodes

end Grammar.ArgumentsTail

/-- Arguments up to the closing parenthesis are a first argument and what follows it. -/
theorem Grammar.ArgumentsPhrase.exists_append_iff {ts : List Token} {p : List Node → List Token → Prop} :
    (∃ (arguments : ArgumentsPhrase) (right : Terminal .closeParen) (us : List Token),
      ts = arguments.tokens ++ right.1 :: us ∧ p arguments.nodes us) ↔
    ∃ (argument : ArgumentPhrase) (tail : ArgumentsTail) (us : List Token),
      ts = argument.tokens ++ (tail.tokens ++ us) ∧ p (argument.node :: tail.nodes) us := by
  constructor
  · intro h
    obtain ⟨arguments, right, us, rfl, hp⟩ := h
    cases arguments with
    | last argument => exact ⟨argument, .close right, us, rfl, hp⟩
    | more argument comma rest =>
      exact ⟨argument, .more comma rest right, us, by simp [tokens, ArgumentsTail.tokens], hp⟩
  · intro h
    obtain ⟨argument, tail, us, rfl, hp⟩ := h
    cases tail with
    | close right => exact ⟨.last argument, right, us, rfl, hp⟩
    | more comma rest right =>
      exact ⟨.more argument comma rest, right, us, by simp [tokens, ArgumentsTail.tokens], hp⟩

/-- The call with more arguments. -/
def OpenCall.extend (call : OpenCall) (arguments : List Node) : OpenCall :=
  { call with arguments := call.arguments ++ arguments }

@[simp] theorem OpenCall.extend_nil (call : OpenCall) : call.extend [] = call := by
  simp [extend]

@[simp] theorem OpenCall.extend_cons (call : OpenCall) (argument : Node) (arguments : List Node) :
    call.extend (argument :: arguments) = (call.push argument).extend arguments := by
  simp [extend, push]

/-- The tokens, behind a complete call, that complete the calls around it: what they make the tree
and which tokens are left. -/
def Closes : List OpenCall → Node → List Token → Node → List Token → Prop
  | [], call, ts, node, rest => node = call ∧ rest = ts
  | around :: outer, call, ts, node, rest =>
      ∃ (tail : ArgumentsTail) (us : List Token), ts = tail.tokens ++ us ∧
        Closes outer ((around.push (.nested call)).extend tail.nodes).node us node rest

namespace CallState

/-- The tokens that begin with an argument and complete the open call that waits for it. -/
def TakesArgument (call : OpenCall) (outer : List OpenCall) (ts : List Token) (node : Node)
    (rest : List Token) : Prop :=
  ∃ (argument : ArgumentPhrase) (tail : ArgumentsTail) (us : List Token),
    ts = argument.tokens ++ (tail.tokens ++ us) ∧
      Closes outer (call.extend (argument.node :: tail.nodes)).node us node rest

/-- The tokens that complete a call whose opening parenthesis has just been read. -/
def TakesArguments (call : OpenCall) (outer : List OpenCall) (ts : List Token) (node : Node)
    (rest : List Token) : Prop :=
  (∃ (right : Terminal .closeParen) (us : List Token), ts = right.1 :: us ∧
    Closes outer call.node us node rest) ∨ TakesArgument call outer ts node rest

/-- Which tokens complete the state of a call to which tree, and which tokens are left. -/
def Completes : CallState → List Token → Node → List Token → Prop
  | .named name outer, ts, node, rest =>
      ∃ (left : Terminal .openParen) (us : List Token), ts = left.1 :: us ∧
        TakesArguments ⟨name, []⟩ outer us node rest
  | .opened call outer, ts, node, rest => TakesArguments call outer ts node rest
  | .divided call outer, ts, node, rest => TakesArgument call outer ts node rest
  | .filled call outer, ts, node, rest =>
      ∃ (tail : ArgumentsTail) (us : List Token), ts = tail.tokens ++ us ∧
        Closes outer (call.extend tail.nodes).node us node rest

/-- A name is completed by the rest of a call, and then the calls around it are. -/
theorem completes_named_iff {name : Token} (hname : name.kind = .func) {outer : List OpenCall}
    {ts rest : List Token} {node : Node} :
    (named name outer).Completes ts node rest ↔
      ∃ (phrase : CallPhrase) (us : List Token), name :: ts = phrase.tokens ++ us ∧
        Closes outer phrase.node us node rest := by
  constructor
  · intro h
    obtain ⟨left, us, rfl, ⟨right, us, rfl, hcloses⟩ | harguments⟩ := h
    · exact ⟨.bare ⟨name, hname⟩ left right, us, rfl, hcloses⟩
    · obtain ⟨arguments, right, vs, rfl, hcloses⟩ := ArgumentsPhrase.exists_append_iff
        (p := fun nodes vs => Closes outer (OpenCall.extend ⟨name, []⟩ nodes).node vs node rest).mpr
          harguments
      exact ⟨.filled ⟨name, hname⟩ left arguments right, vs, by simp [CallPhrase.tokens], hcloses⟩
  · intro h
    obtain ⟨phrase, us, htokens, hcloses⟩ := h
    cases phrase with
    | bare name' left right =>
      obtain ⟨rfl, rfl⟩ := List.cons.inj htokens
      exact ⟨left, _, rfl, .inl ⟨right, us, rfl, hcloses⟩⟩
    | filled name' left arguments right =>
      obtain ⟨rfl, rfl⟩ := List.cons.inj htokens
      refine ⟨left, _, rfl, .inr ?_⟩
      exact ArgumentsPhrase.exists_append_iff
        (p := fun nodes vs => Closes outer (OpenCall.extend ⟨name'.1, []⟩ nodes).node vs node rest).mp
          ⟨arguments, right, us, by simp, hcloses⟩

/-- What completes a call that waits for an argument, by the token that begins it. -/
theorem takesArgument_cons_iff {call : OpenCall} {outer : List OpenCall} {t : Token}
    {ts rest : List Token} {node : Node} :
    TakesArgument call outer (t :: ts) node rest ↔
      ((t.kind = .literal ∨ t.kind = .field) ∧
        (filled (call.push (.leaf .argument t)) outer).Completes ts node rest) ∨
      (t.kind = .func ∧ (named t (call :: outer)).Completes ts node rest) := by
  constructor
  · intro h
    obtain ⟨argument, tail, us, htokens, hcloses⟩ := h
    rw [OpenCall.extend_cons] at hcloses
    cases argument with
    | literal token =>
      obtain ⟨rfl, rfl⟩ := List.cons.inj htokens
      exact .inl ⟨.inl token.2, tail, us, rfl, hcloses⟩
    | field token =>
      obtain ⟨rfl, rfl⟩ := List.cons.inj htokens
      exact .inl ⟨.inr token.2, tail, us, rfl, hcloses⟩
    | call phrase =>
      obtain ⟨name, _, hcall⟩ := phrase.tokens_eq_cons
      have hfunc : t.kind = .func := by
        rw [ArgumentPhrase.tokens, hcall] at htokens
        rw [(List.cons.inj htokens).1, name.2]
      exact .inr ⟨hfunc, (completes_named_iff hfunc).mpr
        ⟨phrase, tail.tokens ++ us, htokens, tail, us, rfl, hcloses⟩⟩
  · intro h
    rcases h with ⟨hkind, tail, us, rfl, hcloses⟩ | ⟨hfunc, hnamed⟩
    · rw [← OpenCall.extend_cons] at hcloses
      rcases hkind with hkind | hkind
      · exact ⟨.literal ⟨t, hkind⟩, tail, us, rfl, hcloses⟩
      · exact ⟨.field ⟨t, hkind⟩, tail, us, rfl, hcloses⟩
    · obtain ⟨phrase, vs, htokens, tail, us, rfl, hcloses⟩ := (completes_named_iff hfunc).mp hnamed
      rw [← OpenCall.extend_cons] at hcloses
      exact ⟨.call phrase, tail, us, htokens, hcloses⟩

/-- Which tokens complete what a step leads to. -/
def CompletesAfter : Step CallState → List Token → Node → List Token → Prop
  | .more state, ts, node, rest => state.Completes ts node rest
  | .stop tree failed, ts, node, rest => failed = false ∧ node = tree ∧ rest = ts

/-- Nothing completes a call that has stopped at a token. -/
theorem not_completesAfter_refuse {token : Token} {expected : String} {calls : List OpenCall}
    {ts rest : List Token} {node : Node} :
    ¬ CompletesAfter (refuse token expected calls) ts node rest := by
  intro h
  obtain ⟨hfailed, -⟩ := h
  cases hfailed

/-- Behind a complete call the calls around it are to be completed. -/
theorem completesAfter_afterCall_iff {call : OpenCall} {outer : List OpenCall}
    {ts rest : List Token} {node : Node} :
    CompletesAfter (afterCall false call outer) ts node rest ↔
      Closes outer call.node ts node rest := by
  cases outer with
  | nil =>
    constructor
    · exact fun h => h.2
    · exact fun h => ⟨rfl, h⟩
  | cons around outer => exact Iff.rfl

/-- Reading the first token of an argument. -/
theorem completesAfter_beginArgument_iff {call : OpenCall} {outer : List OpenCall} {t : Token}
    {ts rest : List Token} {node : Node} :
    CompletesAfter (beginArgument false t call outer) ts node rest ↔
      TakesArgument call outer (t :: ts) node rest := by
  rw [takesArgument_cons_iff]
  unfold beginArgument
  split
  · next hkind => simp [hkind, afterArgument, CompletesAfter]
  · next hkind => simp [hkind, afterArgument, CompletesAfter]
  · next hkind => simp [hkind, CompletesAfter]
  · next hfield hliteral hfunc =>
    constructor
    · exact fun h => absurd h not_completesAfter_refuse
    · intro h
      rcases h with ⟨hkind | hkind, -⟩ | ⟨hkind, -⟩
      · exact absurd hkind hliteral
      · exact absurd hkind hfield
      · exact absurd hkind hfunc

/-- Reading the token behind an argument. -/
theorem completes_filled_cons_iff {call : OpenCall} {outer : List OpenCall} {t : Token}
    {ts rest : List Token} {node : Node} :
    (filled call outer).Completes (t :: ts) node rest ↔
      CompletesAfter ((filled call outer).step false t) ts node rest := by
  simp only [step]
  split
  · next hclose =>
    rw [completesAfter_afterCall_iff]
    constructor
    · intro h
      obtain ⟨tail, us, htokens, hcloses⟩ := h
      cases tail with
      | close right =>
        obtain ⟨-, rfl⟩ := List.cons.inj htokens
        simpa [ArgumentsTail.nodes] using hcloses
      | more comma arguments right =>
        exact absurd htokens (Terminal.cons_ne ⟨t, hclose⟩ comma (by decide) _ _)
    · intro hcloses
      exact ⟨.close ⟨t, hclose⟩, ts, rfl, by simpa [ArgumentsTail.nodes] using hcloses⟩
  · next hclose =>
    split
    · next hcomma =>
      change _ ↔ TakesArgument call outer ts node rest
      constructor
      · intro h
        obtain ⟨tail, us, htokens, hcloses⟩ := h
        cases tail with
        | close right => exact absurd htokens (Terminal.cons_ne ⟨t, hcomma⟩ right (by decide) _ _)
        | more comma arguments right =>
          obtain ⟨-, rfl⟩ := List.cons.inj htokens
          exact ArgumentsPhrase.exists_append_iff
            (p := fun nodes vs => Closes outer (call.extend nodes).node vs node rest).mp
              ⟨arguments, right, us, by simp, hcloses⟩
      · intro harguments
        obtain ⟨arguments, right, us, rfl, hcloses⟩ := ArgumentsPhrase.exists_append_iff
          (p := fun nodes vs => Closes outer (call.extend nodes).node vs node rest).mpr harguments
        exact ⟨.more ⟨t, hcomma⟩ arguments right, us, by simp [ArgumentsTail.tokens], hcloses⟩
    · next hcomma =>
      constructor
      · intro h
        obtain ⟨tail, us, htokens, -⟩ := h
        cases tail with
        | close right => exact absurd ((List.cons.inj htokens).1 ▸ right.2) hclose
        | more comma arguments right => exact absurd ((List.cons.inj htokens).1 ▸ comma.2) hcomma
      · exact fun h => absurd h not_completesAfter_refuse

/-- One step: a token and the tokens behind it complete a state exactly if those behind it complete
the state after the token. -/
theorem completes_cons_iff (state : CallState) (t : Token) {ts rest : List Token} {node : Node} :
    state.Completes (t :: ts) node rest ↔ CompletesAfter (state.step false t) ts node rest := by
  cases state with
  | named name outer =>
    simp only [step]
    split
    · next hopen =>
      constructor
      · intro h
        obtain ⟨left, us, htokens, harguments⟩ := h
        obtain ⟨-, rfl⟩ := List.cons.inj htokens
        exact harguments
      · exact fun harguments => ⟨⟨t, hopen⟩, ts, rfl, harguments⟩
    · next hopen =>
      constructor
      · intro h
        obtain ⟨left, us, htokens, -⟩ := h
        exact absurd ((List.cons.inj htokens).1 ▸ left.2) hopen
      · exact fun h => absurd h not_completesAfter_refuse
  | opened call outer =>
    simp only [step]
    split
    · next hclose =>
      rw [completesAfter_afterCall_iff]
      constructor
      · intro h
        rcases h with ⟨right, us, htokens, hcloses⟩ | harguments
        · obtain ⟨-, rfl⟩ := List.cons.inj htokens
          exact hcloses
        · rcases takesArgument_cons_iff.mp harguments with ⟨hkind, -⟩ | ⟨hkind, -⟩ <;>
            simp [hclose] at hkind
      · exact fun hcloses => .inl ⟨⟨t, hclose⟩, ts, rfl, hcloses⟩
    · next hclose =>
      rw [completesAfter_beginArgument_iff]
      constructor
      · intro h
        rcases h with ⟨right, us, htokens, -⟩ | harguments
        · exact absurd ((List.cons.inj htokens).1 ▸ right.2) hclose
        · exact harguments
      · exact fun harguments => .inr harguments
  | divided call outer => exact completesAfter_beginArgument_iff.symm
  | filled call outer => exact completes_filled_cons_iff

end CallState

/-! ## What completes a script -/

namespace ScriptState

/-- The tokens that complete a script at the start of a line. -/
def CompletesLines (statements : List Node) (ts : List Token) (node : Node) : Prop :=
  ∃ (lines : LinesPhrase) (done : Terminal .done), ts = lines.tokens ++ [done.1] ∧
    node = .script (statements ++ lines.nodes)

/-- The tokens that complete a script behind the statement of a line. -/
def CompletesEnd (statements : List Node) (ts : List Token) (node : Node) : Prop :=
  (∃ done : Terminal .done, ts = [done.1] ∧ node = .script statements) ∨
    ∃ (eol : Terminal .eol) (us : List Token), ts = eol.1 :: us ∧
      CompletesLines statements us node

/-- Which tokens complete the state of a script to which tree. -/
def Completes (state : ScriptState) (ts : List Token) (node : Node) : Prop :=
  match state.phase with
  | .lineStart => CompletesLines state.statements ts node
  | .inCall call => ∃ (statement : Node) (us : List Token), call.Completes ts statement us ∧
      CompletesEnd (state.statements ++ [statement]) us node
  | .lineEnd => CompletesEnd state.statements ts node

/-- Lines are a first line and what follows it. -/
theorem completesLines_iff {statements : List Node} {ts : List Token} {node : Node} :
    CompletesLines statements ts node ↔
      ∃ (line : LinePhrase) (us : List Token), ts = line.tokens ++ us ∧
        CompletesEnd (statements ++ line.nodes) us node := by
  constructor
  · intro h
    obtain ⟨lines, done, rfl, rfl⟩ := h
    cases lines with
    | last line => exact ⟨line, [done.1], rfl, .inl ⟨done, rfl, rfl⟩⟩
    | more line eol rest =>
      refine ⟨line, eol.1 :: (rest.tokens ++ [done.1]), by simp [LinesPhrase.tokens], .inr ?_⟩
      exact ⟨eol, _, rfl, rest, done, rfl, by simp [LinesPhrase.nodes]⟩
  · intro h
    obtain ⟨line, us, rfl, ⟨done, rfl, rfl⟩ | ⟨eol, vs, rfl, rest, done, rfl, rfl⟩⟩ := h
    · exact ⟨.last line, done, rfl, rfl⟩
    · exact ⟨.more line eol rest, done, by simp [LinesPhrase.tokens], by simp [LinesPhrase.nodes]⟩

/-- What completes a script behind a statement, by its first token. -/
theorem completesEnd_cons_iff {statements : List Node} {t : Token} {ts : List Token} {node : Node} :
    CompletesEnd statements (t :: ts) node ↔
      (t.kind = .done ∧ ts = [] ∧ node = .script statements) ∨
      (t.kind = .eol ∧ CompletesLines statements ts node) := by
  constructor
  · intro h
    rcases h with ⟨done, htokens, hnode⟩ | ⟨eol, us, htokens, hlines⟩
    · obtain ⟨rfl, rfl⟩ := List.cons.inj htokens
      exact .inl ⟨done.2, rfl, hnode⟩
    · obtain ⟨rfl, rfl⟩ := List.cons.inj htokens
      exact .inr ⟨eol.2, hlines⟩
  · intro h
    rcases h with ⟨hdone, rfl, hnode⟩ | ⟨heol, hlines⟩
    · exact .inl ⟨⟨t, hdone⟩, rfl, hnode⟩
    · exact .inr ⟨⟨t, heol⟩, ts, rfl, hlines⟩

/-- What completes a script at the start of a line, by its first token. -/
theorem completesLines_cons_iff {statements : List Node} {t : Token} {ts : List Token}
    {node : Node} :
    CompletesLines statements (t :: ts) node ↔
      CompletesEnd statements (t :: ts) node ∨
      (t.kind = .comment ∧ CompletesEnd (statements ++ [.leaf .comment t]) ts node) ∨
      (t.kind = .func ∧ Completes ⟨statements, .inCall (.named t [])⟩ ts node) := by
  rw [completesLines_iff]
  constructor
  · intro h
    obtain ⟨line, us, htokens, hend⟩ := h
    cases line with
    | empty =>
      rw [LinePhrase.nodes, List.append_nil] at hend
      exact .inl (htokens ▸ hend)
    | comment token =>
      obtain ⟨rfl, rfl⟩ := List.cons.inj htokens
      exact .inr (.inl ⟨token.2, hend⟩)
    | call phrase =>
      obtain ⟨name, _, hcall⟩ := phrase.tokens_eq_cons
      have hfunc : t.kind = .func := by
        rw [LinePhrase.tokens, hcall] at htokens
        rw [(List.cons.inj htokens).1, name.2]
      have hnamed : (CallState.named t []).Completes ts phrase.node us :=
        (CallState.completes_named_iff hfunc).mpr ⟨phrase, us, htokens, rfl, rfl⟩
      exact .inr (.inr ⟨hfunc, phrase.node, us, hnamed, hend⟩)
  · intro h
    rcases h with hend | ⟨hcomment, hend⟩ | ⟨hfunc, statement, us, hnamed, hend⟩
    · exact ⟨.empty, t :: ts, rfl, by simpa [LinePhrase.nodes] using hend⟩
    · exact ⟨.comment ⟨t, hcomment⟩, ts, rfl, hend⟩
    · obtain ⟨phrase, vs, htokens, rfl, rfl⟩ := (CallState.completes_named_iff hfunc).mp hnamed
      exact ⟨.call phrase, _, htokens, hend⟩

/-- Which tokens complete what a step leads to. -/
def CompletesAfter : Step ScriptState → List Token → Node → Prop
  | .more state, ts, node => state.Completes ts node
  | .stop tree failed, ts, node => failed = false ∧ ts = [] ∧ node = tree

/-- Nothing completes a script that has stopped at a token. -/
theorem not_completesAfter_refuse {token : Token} {expected : String} {statements : List Node}
    {ts : List Token} {node : Node} :
    ¬ CompletesAfter (refuse token expected statements) ts node := by
  intro h
  obtain ⟨hfailed, -⟩ := h
  cases hfailed

/-- One step: a token and the tokens behind it complete a state exactly if those behind it complete
the state after the token. -/
theorem completes_cons_iff (state : ScriptState) (t : Token) {ts : List Token} {node : Node} :
    state.Completes (t :: ts) node ↔ CompletesAfter (state.step false t) ts node := by
  obtain ⟨statements, phase⟩ := state
  cases phase with
  | lineStart =>
    change CompletesLines statements (t :: ts) node ↔ _
    rw [completesLines_cons_iff, completesEnd_cons_iff]
    simp only [step]
    split
    · next hkind => simp [hkind, CompletesAfter]
    · next hkind => simp [hkind, CompletesAfter, Completes]
    · next hkind => simp [hkind, CompletesAfter, Completes, afterStatement]
    · next hkind => simp [hkind, CompletesAfter]
    · next hdone heol hcomment hfunc =>
      constructor
      · intro h
        rcases h with (⟨hkind, -⟩ | ⟨hkind, -⟩) | ⟨hkind, -⟩ | ⟨hkind, -⟩
        · exact (hdone hkind).elim
        · exact (heol hkind).elim
        · exact (hcomment hkind).elim
        · exact (hfunc hkind).elim
      · exact fun h => absurd h not_completesAfter_refuse
  | inCall call =>
    change (∃ statement us, call.Completes (t :: ts) statement us ∧
      CompletesEnd (statements ++ [statement]) us node) ↔ _
    simp only [CallState.completes_cons_iff, step]
    cases call.step false t with
    | more call' => exact Iff.rfl
    | stop tree failed =>
      cases failed with
      | false =>
        constructor
        · intro h
          obtain ⟨statement, us, ⟨-, rfl, rfl⟩, hend⟩ := h
          exact hend
        · exact fun hend => ⟨tree, ts, ⟨rfl, rfl, rfl⟩, hend⟩
      | true =>
        constructor
        · intro h
          obtain ⟨_, _, ⟨hfailed, -⟩, -⟩ := h
          cases hfailed
        · intro h
          obtain ⟨hfailed, -⟩ := h
          cases hfailed
  | lineEnd =>
    change CompletesEnd statements (t :: ts) node ↔ _
    rw [completesEnd_cons_iff]
    simp only [step]
    split
    · next hkind => simp [hkind, CompletesAfter, Completes]
    · next hkind => simp [hkind, CompletesAfter]
    · next heol hdone =>
      constructor
      · intro h
        rcases h with ⟨hkind, -⟩ | ⟨hkind, -⟩
        · exact (hdone hkind).elim
        · exact (heol hkind).elim
      · exact fun h => absurd h not_completesAfter_refuse

/-- A run: what is left to complete does not change along tokens that are read. -/
theorem Reaches.completes_append_iff {state state' : ScriptState} {ts us : List Token} {node : Node}
    (h : state.Reaches ts state') : state.Completes (ts ++ us) node ↔ state'.Completes us node := by
  induction ts generalizing state with
  | nil =>
    rw [show state' = state from h]
    exact Iff.rfl
  | cons t ts ih =>
    obtain ⟨next, hstep, hreaches⟩ := h
    rw [List.cons_append, completes_cons_iff, hstep]
    exact ih hreaches

/-- A script is begun by nothing but the scripts of the grammar. -/
theorem completes_start_iff {ts : List Token} {node : Node} :
    start.Completes ts node ↔ ∃ script : ScriptPhrase, script.tokens = ts ∧ script.node = node := by
  constructor
  · intro h
    obtain ⟨lines, done, rfl, rfl⟩ := h
    exact ⟨⟨lines, done⟩, rfl, rfl⟩
  · intro h
    obtain ⟨script, rfl, rfl⟩ := h
    exact ⟨script.lines, script.done, rfl, rfl⟩

/-- No state is completed by tokens with an error among them. -/
theorem Completes.kind_ne_error {state : ScriptState} {ts : List Token} {node : Node}
    (h : state.Completes ts node) : ∀ t ∈ ts, t.kind ≠ .error := by
  induction ts generalizing state with
  | nil => simp
  | cons t ts ih =>
    rw [completes_cons_iff] at h
    intro t' ht'
    cases hstep : state.step false t with
    | more next =>
      rw [hstep] at h
      rcases List.mem_cons.mp ht' with rfl | ht'
      · intro herror
        have hlast := isLast_of_step_eq_more hstep
        simp [Token.isLast, herror] at hlast
      · exact ih h t' ht'
    | stop tree failed =>
      rw [hstep] at h
      obtain ⟨rfl, rfl, -⟩ := h
      rw [List.mem_singleton.mp ht', kind_of_step_eq_stop hstep]
      decide

end ScriptState

/-- No token of a script is an error. -/
theorem Grammar.ScriptPhrase.kind_ne_error (script : ScriptPhrase) :
    ∀ t ∈ script.tokens, t.kind ≠ .error :=
  (ScriptState.completes_start_iff.mpr ⟨script, rfl, rfl⟩).kind_ne_error

/-! ## Acceptance -/

/-- A parser that has not failed accepts what it has not read, with a tree, exactly if the tokens
are a script with that tree. -/
theorem Parser.checked_eq_ok_iff_exists {p : Parser} (hfailed : p.failed = false) {ks : List Token}
    (hks : p.stream.Yields ks) (node : Node) :
    p.script.checked = .ok node ↔
      ∃ script : ScriptPhrase, script.tokens = ks ∧ script.node = node := by
  obtain ⟨ts, t, us, state, failed, rfl, hreaches, hstop, hend, hreport⟩ :=
    p.exists_stop_script hfailed hks
  rw [← ScriptState.completes_start_iff, hreaches.completes_append_iff,
    ScriptState.completes_cons_iff, hstop]
  cases failed with
  | false =>
    rw [Parsed.checked_of_eq_none hreport, Except.ok.injEq]
    constructor
    · intro heq
      subst heq
      exact ⟨rfl, hend rfl, rfl⟩
    · exact fun h => h.2.2.symm
  | true =>
    obtain ⟨expected, herror⟩ := hreport
    rw [Parsed.checked_of_eq_some herror]
    constructor
    · intro h
      cases h
    · intro h
      obtain ⟨hfailed, -⟩ := h
      cases hfailed

/-- A text is accepted with a tree exactly if its tokens are a script with that tree. -/
theorem parseChecked_eq_ok_iff_exists {source : String} {text : List Char} {ks : List Token}
    (hks : (TokenStream.ofText source text).Yields ks) (node : Node) :
    parseChecked source text = .ok node ↔
      ∃ script : ScriptPhrase, script.tokens = ks ∧ script.node = node :=
  Parser.checked_eq_ok_iff_exists rfl hks node

/-- The parser accepts exactly its grammar and builds the derivation's tree. A text has one token
sequence up to its end or first error; the text is accepted if and only if the sequence holds no
error and has a derivation, and the tree is the tree of that derivation, which is the only one. -/
theorem parseChecked_eq_ok_iff (source : String) (text : List Char) :
    (∃! ks, (TokenStream.ofText source text).Yields ks) ∧
    ∀ ks, (TokenStream.ofText source text).Yields ks → ∀ node,
      parseChecked source text = .ok node ↔
        (∀ t ∈ ks, t.kind ≠ .error) ∧
        ∃ script : ScriptPhrase, script.tokens = ks ∧ script.node = node ∧
          ∀ other : ScriptPhrase, other.tokens = ks → other = script := by
  constructor
  · exact ⟨_, TokenStream.yields_upcoming _, fun ks hks => hks.unique (TokenStream.yields_upcoming _)⟩
  · intro ks hks node
    constructor
    · intro h
      obtain ⟨script, htokens, hnode⟩ := (parseChecked_eq_ok_iff_exists hks node).mp h
      refine ⟨htokens ▸ script.kind_ne_error, script, htokens, hnode, ?_⟩
      exact fun other hother => ScriptPhrase.eq_of_tokens_eq (hother.trans htokens.symm)
    · intro h
      obtain ⟨-, script, htokens, hnode, -⟩ := h
      exact (parseChecked_eq_ok_iff_exists hks node).mpr ⟨script, htokens, hnode⟩

end CallScript
