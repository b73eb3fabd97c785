import CallScript.Proofs.Acceptance
import CallScript.Proofs.TreeShape

/-!
# Parsers that are used again

A parser may be asked for tokens, calls, arguments, statements and scripts in any order, and goes on
where it stands. It also remembers whether it has ever complained. As long as it has not, a script
that it accepts is all that was left of the text. Once it has, it reads no further than to the first
argument of the first statement, and accepts what it has seen so far.
-/

namespace CallScript

open Grammar

/-! ## Requests -/

/-- What may be asked of a parser. -/
inductive Request where
  | next
  | peek
  | call
  | argument
  | statement
  | script
  /-- a script, with its first error as the answer -/
  | check

namespace Parser

/-- The parser behind a request. -/
def use (p : Parser) : Request → Parser
  | .next => p.next.2
  | .peek => p.peek.2
  | .call => p.call.parser
  | .argument => p.argument.parser
  | .statement => p.statement.parser
  | .script | .check => p.script.parser

/-- The tree that a request reads, if it asks for one. -/
def tree? (p : Parser) : Request → Option Node
  | .next | .peek => none
  | .call => some p.call.node
  | .argument => some p.argument.node
  | .statement => some p.statement.node
  | .script | .check => some p.script.node

/-- Whether the answer to a request holds an error. -/
def complains (p : Parser) (request : Request) : Bool :=
  (p.tree? request).any (·.findError?.isSome)

/-- The parser behind requests one after the other. -/
def after (p : Parser) : List Request → Parser
  | [] => p
  | request :: requests => (p.use request).after requests

/-- Whether the answer to one of the requests holds an error. -/
def hasComplained (p : Parser) : List Request → Bool
  | [] => false
  | request :: requests => p.complains request || (p.use request).hasComplained requests

end Parser

/-! ## What a parser remembers -/

/-- A step leads to a state without error nodes, or fails exactly if the tree holds one. -/
def Step.Admits {σ : Type} (Clean : σ → Prop) : Step σ → Prop
  | .more state => Clean state
  | .stop tree failed => failed = tree.findError?.isSome

/-- Reading fails exactly if it did before or the tree holds an error. -/
theorem failed_readTree {σ : Type} {step : Bool → σ → Token → Step σ} {close : σ → Node}
    {Clean : σ → Prop} (hclean : ∀ state token, Clean state → (step false state token).Admits Clean)
    (hclose : ∀ state, Clean state → (close state).findError? = none)
    (hfailed : ∀ state token tree failed, step true state token = .stop tree failed → failed = true)
    {state : σ} (h : Clean state) (p : Parser) (tokens : List (Token × TokenStream)) :
    (readTree (step p.failed) close state p tokens).parser.failed =
      (p.failed || (readTree (step p.failed) close state p tokens).node.findError?.isSome) := by
  obtain ⟨stream, failed⟩ := p
  cases failed with
  | true =>
    -- whatever has been read, the failure is not forgotten
    clear h
    rw [Bool.true_or]
    induction tokens generalizing state stream with
    | nil => rfl
    | cons entry tokens ih =>
      obtain ⟨token, behind⟩ := entry
      rw [readTree]
      cases hstep : step true state token with
      | more next => exact ih behind
      | stop tree failed => exact hfailed state token tree failed hstep
  | false =>
    rw [Bool.false_or]
    induction tokens generalizing state stream with
    | nil =>
      change false = (close state).findError?.isSome
      rw [hclose state h]
      rfl
    | cons entry tokens ih =>
      obtain ⟨token, behind⟩ := entry
      have hnext := hclean state token h
      rw [readTree]
      cases hstep : step false state token with
      | more next =>
        rw [hstep] at hnext
        exact ih hnext behind
      | stop tree failed =>
        rw [hstep] at hnext
        exact hnext

/-- A tree reports a failure by an error node. -/
theorem Reports.failed_eq {token : Token} {tree : Node} {failed : Bool}
    (h : Reports token tree failed) : failed = tree.findError?.isSome := by
  cases failed with
  | false => rw [show tree.findError? = none from h, Option.isSome_none]
  | true =>
    obtain ⟨expected, herror⟩ := h
    rw [herror, Option.isSome_some]

namespace CallState

/-- Completing a call after a failure ends all calls around it. -/
theorem afterCall_true (call : OpenCall) (outer : List OpenCall) :
    afterCall true call outer = .stop (closeAround call.node outer) true := by
  cases outer with
  | nil => rfl
  | cons around outer => rfl

/-- After a failure no step succeeds. -/
theorem failed_of_step_true {state : CallState} {token : Token} {tree : Node} {failed : Bool}
    (h : state.step true token = .stop tree failed) : failed = true := by
  have hsteps := steps_step true state token
  generalize state.step true token = result at h hsteps
  cases hsteps with
  | opened => cases h
  | divided => cases h
  | nested => cases h
  | argument =>
    cases h
    rfl
  | closed =>
    rw [afterCall_true] at h
    cases h
    rfl
  | refused =>
    cases h
    rfl

/-- A call without error nodes is closed to a tree without any. -/
theorem findError?_closeAround_node {call : OpenCall} {outer : List OpenCall}
    (h : CleanCalls (call :: outer)) : (closeAround call.node outer).findError? = none := by
  obtain ⟨hcall, houter⟩ := List.forall_mem_cons.mp h
  rw [findError?_closeAround houter, OpenCall.findError?_node, hcall]

theorem cleanCalls_cons_empty {outer : List OpenCall} (h : CleanCalls outer) (name : Token) :
    CleanCalls (⟨name, []⟩ :: outer) :=
  List.forall_mem_cons.mpr ⟨Node.findErrorIn?_nil, h⟩

/-- What a token behind the opening parenthesis does after a failure. -/
theorem step_true_opened (name : Token) (outer : List OpenCall) (t : Token) :
    (t.kind = .closeParen ∧ step true (.opened ⟨name, []⟩ outer) t =
      .stop (closeAround (OpenCall.node ⟨name, []⟩) outer) true) ∨
    ((t.kind = .field ∨ t.kind = .literal) ∧ step true (.opened ⟨name, []⟩ outer) t =
      .stop (closeWith (.leaf .argument t) (⟨name, []⟩ :: outer)) true) ∨
    (t.kind = .func ∧ step true (.opened ⟨name, []⟩ outer) t =
      .more (.named t (⟨name, []⟩ :: outer))) ∨
    (t.kind ≠ .closeParen ∧ ¬ (t.kind = .field ∨ t.kind = .literal) ∧ t.kind ≠ .func ∧
      ∃ expected, step true (.opened ⟨name, []⟩ outer) t =
        refuse t expected (⟨name, []⟩ :: outer)) := by
  simp only [step, afterCall_true]
  split
  · next hclose => exact .inl ⟨hclose, rfl⟩
  · next hclose =>
    unfold beginArgument
    split
    · next hkind => exact .inr (.inl ⟨.inl hkind, rfl⟩)
    · next hkind => exact .inr (.inl ⟨.inr hkind, rfl⟩)
    · next hkind => exact .inr (.inr (.inl ⟨hkind, rfl⟩))
    · next hfield hliteral hfunc =>
      exact .inr (.inr (.inr ⟨hclose, not_or.mpr ⟨hfield, hliteral⟩, hfunc, _, rfl⟩))

/-- The tree of a state without error nodes holds none. -/
theorem findError?_close {state : CallState} (h : CleanCalls state.calls) :
    state.close.findError? = none := by
  cases state with
  | named name outer => exact findError?_closeAround_node (cleanCalls_cons_empty h name)
  | opened call outer => exact findError?_closeAround_node h
  | divided call outer => exact findError?_closeAround_node h
  | filled call outer => exact findError?_closeAround_node h

theorem admits_step {state : CallState} (h : CleanCalls state.calls) (token : Token) :
    (state.step false token).Admits fun state => CleanCalls state.calls := by
  have hclean := cleanStep_step h token
  cases hstep : state.step false token with
  | more next =>
    rw [hstep] at hclean
    exact hclean
  | stop tree failed =>
    rw [hstep] at hclean
    exact Reports.failed_eq hclean

end CallState

/-- Reading the rest of a call fails exactly if it did before or the tree holds an error. -/
theorem Parser.failed_restOfCall (name : Token) (p : Parser) :
    (p.restOfCall name).parser.failed =
      (p.failed || (p.restOfCall name).node.findError?.isSome) := by
  refine failed_readTree (fun _ token h => CallState.admits_step h token)
    (fun _ => CallState.findError?_close) (fun _ _ _ _ => CallState.failed_of_step_true) ?_ p _
  exact nofun

namespace ScriptState

/-- After a failure no step succeeds. -/
theorem failed_of_step_true {state : ScriptState} {token : Token} {tree : Node} {failed : Bool}
    (h : state.step true token = .stop tree failed) : failed = true := by
  have hstatement : ∀ statements statement,
      afterStatement true statements statement = .stop tree failed → failed = true := by
    intro statements statement h
    cases h
    rfl
  unfold step at h
  split at h
  · split at h
    · cases h
      rfl
    · cases h
    · exact hstatement _ _ h
    · cases h
    · cases h
      rfl
  · next call _ =>
    cases hcall : call.step true token with
    | more call =>
      rw [hcall] at h
      cases h
    | stop statement failed' =>
      rw [hcall] at h
      obtain rfl := CallState.failed_of_step_true hcall
      exact hstatement _ _ h
  · split at h
    · cases h
    · cases h
      rfl
    · cases h
      rfl

/-- The tree of a state without error nodes holds none. -/
theorem findError?_close {state : ScriptState} (h : state.Clean) :
    state.close.findError? = none := by
  obtain ⟨statements, phase⟩ := state
  obtain ⟨hstatements, hphase⟩ := h
  cases phase with
  | lineStart => exact (Node.findError?_script statements).trans hstatements
  | inCall call =>
    change (Node.script (statements ++ [call.close])).findError? = none
    rw [Node.findError?_script, Node.findErrorIn?_append, hstatements, Node.findErrorIn?_singleton,
      CallState.findError?_close hphase]
    rfl
  | lineEnd => exact (Node.findError?_script statements).trans hstatements

theorem admits_step {state : ScriptState} (h : state.Clean) (token : Token) :
    (state.step false token).Admits Clean := by
  have hclean := cleanStep_step h token
  cases hstep : state.step false token with
  | more next =>
    rw [hstep] at hclean
    exact hclean
  | stop tree failed =>
    rw [hstep] at hclean
    exact Reports.failed_eq hclean

end ScriptState

namespace Parser

/-- Reading a script fails exactly if it did before or the tree holds an error. -/
theorem failed_script (p : Parser) :
    p.script.parser.failed = (p.failed || p.script.node.findError?.isSome) :=
  failed_readTree (fun _ token h => ScriptState.admits_step h token)
    (fun _ => ScriptState.findError?_close) (fun _ _ _ _ => ScriptState.failed_of_step_true)
    ⟨rfl, trivial⟩ p _

/-- A refused token is an error, and a failure. -/
theorem failed_refuse (token : Token) (expected : String) (p : Parser) :
    (p.refuse token expected).parser.failed =
      (p.failed || (p.refuse token expected).node.findError?.isSome) := by
  change true = (p.failed || (errorNode token expected).findError?.isSome)
  rw [findError?_errorNode, Option.isSome_some, Bool.or_true]

/-- A leaf that is no error is no failure. -/
theorem failed_single {node : Node} (h : node.findError? = none) (token : Token) (p : Parser) :
    (single node token p).parser.failed =
      (p.failed || (single node token p).node.findError?.isSome) := by
  change p.failed = (p.failed || node.findError?.isSome)
  rw [h, Option.isSome_none, Bool.or_false]

theorem failed_call (p : Parser) :
    p.call.parser.failed = (p.failed || p.call.node.findError?.isSome) := by
  unfold call
  dsimp only
  split
  · exact failed_restOfCall p.next.1 p.next.2
  · exact failed_refuse p.next.1 _ p.next.2

theorem failed_argument (p : Parser) :
    p.argument.parser.failed = (p.failed || p.argument.node.findError?.isSome) := by
  unfold argument
  dsimp only
  split
  · exact failed_single (Node.findError?_leaf_argument _) p.next.1 p.next.2
  · exact failed_single (Node.findError?_leaf_argument _) p.next.1 p.next.2
  · split
    · exact failed_restOfCall p.next.1 p.next.2
    · rw [Node.findError?_nested]
      exact failed_restOfCall p.next.1 p.next.2
  · exact failed_refuse p.next.1 _ p.next.2

theorem failed_statement (p : Parser) :
    p.statement.parser.failed = (p.failed || p.statement.node.findError?.isSome) := by
  unfold statement
  dsimp only
  split
  · exact failed_single (Node.findError?_leaf_comment _) p.next.1 p.next.2
  · exact failed_restOfCall p.next.1 p.next.2
  · exact failed_refuse p.next.1 _ p.next.2

/-- One request: the parser has failed behind it exactly if it had before or the answer holds an
error. -/
theorem failed_use (p : Parser) (request : Request) :
    (p.use request).failed = (p.failed || p.complains request) := by
  cases request with
  | next => exact (Bool.or_false _).symm
  | peek => exact (Bool.or_false _).symm
  | call => exact p.failed_call
  | argument => exact p.failed_argument
  | statement => exact p.failed_statement
  | script => exact p.failed_script
  | check => exact p.failed_script

/-- Requests one after the other: a parser remembers exactly whether it has complained. -/
theorem failed_after (p : Parser) (requests : List Request) :
    (p.after requests).failed = (p.failed || p.hasComplained requests) := by
  induction requests generalizing p with
  | nil => exact (Bool.or_false _).symm
  | cons request requests ih =>
    rw [after, ih, failed_use, hasComplained, Bool.or_assoc]

end Parser

/-! ## Reading after a failure -/

namespace Grammar

/-- The beginning of a call up to its first argument, or up to its end if it has none. -/
inductive CallHead where
  | bare (name : Terminal .func) (left : Terminal .openParen) (right : Terminal .closeParen)
  | literal (name : Terminal .func) (left : Terminal .openParen) (token : Terminal .literal)
  | field (name : Terminal .func) (left : Terminal .openParen) (token : Terminal .field)
  | nested (name : Terminal .func) (left : Terminal .openParen) (inner : CallHead)

namespace CallHead

/-- The tokens of the beginning of a call. -/
def tokens : CallHead → List Token
  | .bare name left right => [name.1, left.1, right.1]
  | .literal name left token => [name.1, left.1, token.1]
  | .field name left token => [name.1, left.1, token.1]
  | .nested name left inner => name.1 :: left.1 :: inner.tokens

/-- The tree of the beginning of a call: no call in it has more than one argument. -/
def node : CallHead → Node
  | .bare name _ _ => .mk .call (some name.1) []
  | .literal name _ token => .mk .call (some name.1) [.leaf .argument token.1]
  | .field name _ token => .mk .call (some name.1) [.leaf .argument token.1]
  | .nested name _ inner => .mk .call (some name.1) [.nested inner.node]

/-- A call begins with a name and a parenthesis. -/
theorem tokens_eq_cons (head : CallHead) :
    ∃ (name : Terminal .func) (left : Terminal .openParen) (rest : List Token),
      head.tokens = name.1 :: left.1 :: rest := by
  cases head with
  | bare name left right => exact ⟨name, left, [right.1], rfl⟩
  | literal name left token => exact ⟨name, left, [token.1], rfl⟩
  | field name left token => exact ⟨name, left, [token.1], rfl⟩
  | nested name left inner => exact ⟨name, left, inner.tokens, rfl⟩

/-- The first token of a call is a name. -/
theorem kind_of_isPrefix {head : CallHead} {t : Token} {ks : List Token}
    (h : head.tokens <+: t :: ks) : t.kind = .func := by
  obtain ⟨name, left, rest, htokens⟩ := head.tokens_eq_cons
  rw [htokens, List.cons_prefix_cons] at h
  rw [← h.1, name.2]

/-- The second token of a call is a parenthesis. -/
theorem kind_of_isPrefix_cons {head : CallHead} {name t : Token} {ks : List Token}
    (h : head.tokens <+: name :: t :: ks) : t.kind = .openParen := by
  obtain ⟨name', left, rest, htokens⟩ := head.tokens_eq_cons
  rw [htokens, List.cons_prefix_cons, List.cons_prefix_cons] at h
  rw [← h.2.1, left.2]

end CallHead

end Grammar

/-- The beginning of a script up to the first argument of its first statement. -/
inductive Grammar.ScriptHead where
  | done (token : Terminal .done)
  | comment (token : Terminal .comment)
  | call (head : CallHead)
  | blank (eol : Terminal .eol) (rest : ScriptHead)

namespace Grammar.ScriptHead

/-- The tokens of the beginning of a script. -/
def tokens : ScriptHead → List Token
  | .done token => [token.1]
  | .comment token => [token.1]
  | .call head => head.tokens
  | .blank eol rest => eol.1 :: rest.tokens

/-- The tree of the beginning of a script: it has one statement at most. -/
def node : ScriptHead → Node
  | .done _ => .script []
  | .comment token => .script [.leaf .comment token.1]
  | .call head => .script [head.node]
  | .blank _ rest => rest.node

/-- The beginnings of scripts by their first token. -/
theorem exists_isPrefix_cons_iff {t : Token} {ks : List Token} {node : Node} :
    (∃ head : ScriptHead, head.tokens <+: t :: ks ∧ node = head.node) ↔
      (t.kind = .done ∧ node = .script []) ∨
      (t.kind = .comment ∧ node = .script [.leaf .comment t]) ∨
      (∃ head : CallHead, head.tokens <+: t :: ks ∧ node = .script [head.node]) ∨
      (t.kind = .eol ∧ ∃ head : ScriptHead, head.tokens <+: ks ∧ node = head.node) := by
  constructor
  · intro h
    obtain ⟨head, hprefix, hnode⟩ := h
    cases head with
    | done token =>
      obtain ⟨rfl, -⟩ := List.cons_prefix_cons.mp hprefix
      exact .inl ⟨token.2, hnode⟩
    | comment token =>
      obtain ⟨rfl, -⟩ := List.cons_prefix_cons.mp hprefix
      exact .inr (.inl ⟨token.2, hnode⟩)
    | call head => exact .inr (.inr (.inl ⟨head, hprefix, hnode⟩))
    | blank eol rest =>
      obtain ⟨rfl, hrest⟩ := List.cons_prefix_cons.mp hprefix
      exact .inr (.inr (.inr ⟨eol.2, rest, hrest, hnode⟩))
  · intro h
    rcases h with ⟨hkind, hnode⟩ | ⟨hkind, hnode⟩ | ⟨head, hprefix, hnode⟩ |
      ⟨hkind, head, hprefix, hnode⟩
    · exact ⟨.done ⟨t, hkind⟩, by simp [tokens], hnode⟩
    · exact ⟨.comment ⟨t, hkind⟩, by simp [tokens], hnode⟩
    · exact ⟨.call head, hprefix, hnode⟩
    · exact ⟨.blank ⟨t, hkind⟩ head, List.cons_prefix_cons.mpr ⟨rfl, hprefix⟩, hnode⟩

end Grammar.ScriptHead

/-- The tokens begin with a call up to its first argument, and the tree is the script of that call
inside the open ones, closed as they are. -/
def HeadsAs (outer : List OpenCall) (ks : List Token) (node : Node) : Prop :=
  ∃ head : CallHead, head.tokens <+: ks ∧ node = .script [closeAround head.node outer]

/-- What a call begins with, by the token behind its parenthesis. -/
theorem headsAs_cons_iff {name left t : Token} (hname : name.kind = .func)
    (hleft : left.kind = .openParen) {outer : List OpenCall} {ks : List Token} {node : Node} :
    HeadsAs outer (name :: left :: t :: ks) node ↔
      (t.kind = .closeParen ∧ node = .script [closeAround (OpenCall.node ⟨name, []⟩) outer]) ∨
      ((t.kind = .field ∨ t.kind = .literal) ∧
        node = .script [closeWith (.leaf .argument t) (⟨name, []⟩ :: outer)]) ∨
      HeadsAs (⟨name, []⟩ :: outer) (t :: ks) node := by
  constructor
  · intro h
    obtain ⟨head, hprefix, hnode⟩ := h
    cases head with
    | bare name' left' right =>
      simp only [CallHead.tokens, List.cons_prefix_cons] at hprefix
      obtain ⟨rfl, rfl, rfl, -⟩ := hprefix
      exact .inl ⟨right.2, hnode⟩
    | literal name' left' token =>
      simp only [CallHead.tokens, List.cons_prefix_cons] at hprefix
      obtain ⟨rfl, rfl, rfl, -⟩ := hprefix
      exact .inr (.inl ⟨.inr token.2, hnode⟩)
    | field name' left' token =>
      simp only [CallHead.tokens, List.cons_prefix_cons] at hprefix
      obtain ⟨rfl, rfl, rfl, -⟩ := hprefix
      exact .inr (.inl ⟨.inl token.2, hnode⟩)
    | nested name' left' inner =>
      simp only [CallHead.tokens, List.cons_prefix_cons] at hprefix
      obtain ⟨rfl, rfl, hinner⟩ := hprefix
      exact .inr (.inr ⟨inner, hinner, hnode⟩)
  · intro h
    rcases h with ⟨hkind, hnode⟩ | ⟨hkind | hkind, hnode⟩ | ⟨inner, hprefix, hnode⟩
    · exact ⟨.bare ⟨name, hname⟩ ⟨left, hleft⟩ ⟨t, hkind⟩, by simp [CallHead.tokens], hnode⟩
    · exact ⟨.field ⟨name, hname⟩ ⟨left, hleft⟩ ⟨t, hkind⟩, by simp [CallHead.tokens], hnode⟩
    · exact ⟨.literal ⟨name, hname⟩ ⟨left, hleft⟩ ⟨t, hkind⟩, by simp [CallHead.tokens], hnode⟩
    · exact ⟨.nested ⟨name, hname⟩ ⟨left, hleft⟩ inner, by simpa [CallHead.tokens] using hprefix,
        hnode⟩

/-- A tree is the answer exactly if it holds no error. -/
theorem Parsed.checked_eq_ok_iff {parsed : Parsed} {node : Node} :
    parsed.checked = .ok node ↔ parsed.node.findError? = none ∧ node = parsed.node := by
  rw [checked]
  cases parsed.node.findError? with
  | none => simp [eq_comm]
  | some error => simp

section

variable {σ : Type} {step : σ → Token → Step σ} {close : σ → Node} {state : σ} {p : Parser}
  {token : Token} {stream : TokenStream} {tokens : List (Token × TokenStream)} {node : Node}

/-- Where reading goes on, the answer is that of what follows. -/
theorem checked_readTree_of_more {next : σ} (h : step state token = .more next) :
    (readTree step close state p ((token, stream) :: tokens)).checked =
      (readTree step close next { p with stream := stream } tokens).checked := by
  rw [readTree, h]
  rfl

/-- Where reading stops, the tree is the answer unless it holds an error. -/
theorem checked_readTree_of_stop {tree : Node} {failed : Bool}
    (h : step state token = .stop tree failed) :
    (readTree step close state p ((token, stream) :: tokens)).checked = .ok node ↔
      tree.findError? = none ∧ node = tree := by
  rw [readTree, h, Parsed.checked_eq_ok_iff]

end

namespace ScriptState

variable {call : CallState} {token : Token} {tree : Node}

/-- After a failure the first statement ends the script. -/
theorem step_true_of_stop (h : call.step true token = .stop tree true) :
    step true ⟨[], .inCall call⟩ token = .stop (.script [tree]) true := by
  simp only [step, h]
  rfl

theorem step_true_of_more {next : CallState} (h : call.step true token = .more next) :
    step true ⟨[], .inCall call⟩ token = .more ⟨[], .inCall next⟩ := by
  simp only [step, h]

/-- Where reading a call stops after a failure, the answer is the script of that call. -/
theorem checked_of_stop_true {p : Parser} {stream : TokenStream}
    {tokens : List (Token × TokenStream)} {node : Node}
    (h : call.step true token = .stop tree true) :
    (readTree (step true) close ⟨[], .inCall call⟩ p ((token, stream) :: tokens)).checked =
        .ok node ↔ tree.findError? = none ∧ node = .script [tree] := by
  rw [checked_readTree_of_stop (step_true_of_stop h), Node.findError?_script,
    Node.findErrorIn?_singleton]

/-- A refused token is no answer. -/
theorem checked_ne_ok_of_refuse {p : Parser} {stream : TokenStream}
    {tokens : List (Token × TokenStream)} {node : Node} {expected : String}
    {calls : List OpenCall} (hclean : CleanCalls calls)
    (h : call.step true token = CallState.refuse token expected calls) :
    (readTree (step true) close ⟨[], .inCall call⟩ p ((token, stream) :: tokens)).checked ≠
      .ok node := by
  intro hok
  obtain ⟨hnone, -⟩ := (checked_of_stop_true h).mp hok
  rw [findError?_closeWith hclean, findError?_errorNode] at hnone
  cases hnone

/-- After a failure a call is read up to its first argument, and so are the calls in it. -/
theorem checked_inCall_iff {tokens : List (Token × TokenStream)} {s : TokenStream}
    (h : s.Yields (tokens.map Prod.fst)) (p : Parser) {name : Token} (hname : name.kind = .func)
    {outer : List OpenCall} (hclean : CleanCalls outer) (node : Node) :
    ((readTree (step true) close ⟨[], .inCall (.named name outer)⟩ p tokens).checked = .ok node ↔
      HeadsAs outer (name :: tokens.map Prod.fst) node) ∧
    ∀ left : Terminal .openParen,
      ((readTree (step true) close ⟨[], .inCall (.opened ⟨name, []⟩ outer)⟩ p tokens).checked =
          .ok node ↔ HeadsAs outer (name :: left.1 :: tokens.map Prod.fst) node) := by
  induction tokens generalizing s p name outer with
  | nil => cases h
  | cons entry tokens ih =>
    obtain ⟨t, stream⟩ := entry
    rw [List.map_cons] at h ⊢
    have hopened := CallState.cleanCalls_cons_empty hclean name
    constructor
    · by_cases hparen : t.kind = .openParen
      · have hstep : (CallState.named name outer).step true t = .more (.opened ⟨name, []⟩ outer) :=
          if_pos hparen
        rw [checked_readTree_of_more (step_true_of_more hstep)]
        exact (ih (h.tail (by simp [Token.isLast, hparen])) _ hname hclean).2 ⟨t, hparen⟩
      · have hstep : (CallState.named name outer).step true t = CallState.refuse t "(" outer :=
          if_neg hparen
        refine iff_of_false (checked_ne_ok_of_refuse hclean hstep) fun hheads => hparen ?_
        obtain ⟨head, hprefix, -⟩ := hheads
        exact CallHead.kind_of_isPrefix_cons hprefix
    · intro left
      rw [headsAs_cons_iff hname left.2]
      have hnested : HeadsAs (⟨name, []⟩ :: outer) (t :: tokens.map Prod.fst) node →
          t.kind = .func := by
        intro hheads
        obtain ⟨head, hprefix, -⟩ := hheads
        exact CallHead.kind_of_isPrefix hprefix
      rcases CallState.step_true_opened name outer t with ⟨hkind, hstep⟩ | ⟨hkind, hstep⟩ |
        ⟨hkind, hstep⟩ | ⟨hclose, hleaf, hfunc, expected, hstep⟩
      · have hnone := mt hnested fun hfunc => by simp [hfunc] at hkind
        rw [checked_of_stop_true hstep, CallState.findError?_closeAround_node hopened]
        simp [hkind, hnone]
      · have hnone := mt hnested fun hfunc => by simp [hfunc] at hkind
        have hclose : t.kind ≠ .closeParen := fun hclose => by simp [hclose] at hkind
        rw [checked_of_stop_true hstep, findError?_closeWith hopened,
          Node.findError?_leaf_argument]
        simp [hkind, hclose, hnone]
      · rw [checked_readTree_of_more (step_true_of_more hstep)]
        simp only [hkind, reduceCtorEq, or_self, false_and, false_or]
        exact (ih (h.tail (by simp [Token.isLast, hkind])) _ hkind hopened).1
      · simp only [hclose, hleaf, false_and, false_or]
        exact iff_of_false (checked_ne_ok_of_refuse hopened hstep) (mt hnested hfunc)

/-- What a token at the start of a script does after a failure. -/
theorem step_true_start (t : Token) :
    (t.kind = .done ∧ step true start t = .stop (.script []) true) ∨
    (t.kind = .eol ∧ step true start t = .more start) ∨
    (t.kind = .comment ∧ step true start t = .stop (.script [.leaf .comment t]) true) ∨
    (t.kind = .func ∧ step true start t = .more ⟨[], .inCall (.named t [])⟩) ∨
    (t.kind ≠ .done ∧ t.kind ≠ .eol ∧ t.kind ≠ .comment ∧ t.kind ≠ .func ∧
      ∃ expected, step true start t = .stop (.script [errorNode t expected]) true) := by
  simp only [step, start]
  split
  · next hkind => exact .inl ⟨hkind, rfl⟩
  · next hkind => exact .inr (.inl ⟨hkind, rfl⟩)
  · next hkind => exact .inr (.inr (.inl ⟨hkind, rfl⟩))
  · next hkind => exact .inr (.inr (.inr (.inl ⟨hkind, rfl⟩)))
  · next hdone heol hcomment hfunc =>
    exact .inr (.inr (.inr (.inr ⟨hdone, heol, hcomment, hfunc, _, rfl⟩)))

/-- After a failure a script is read up to the first argument of its first statement. -/
theorem checked_lineStart_iff {tokens : List (Token × TokenStream)} {s : TokenStream}
    (h : s.Yields (tokens.map Prod.fst)) (p : Parser) (node : Node) :
    (readTree (step true) close start p tokens).checked = .ok node ↔
      ∃ head : ScriptHead, head.tokens <+: tokens.map Prod.fst ∧ node = head.node := by
  induction tokens generalizing s p with
  | nil => cases h
  | cons entry tokens ih =>
    obtain ⟨t, stream⟩ := entry
    rw [List.map_cons] at h ⊢
    rw [ScriptHead.exists_isPrefix_cons_iff]
    have hcall : (∃ head : CallHead, head.tokens <+: t :: tokens.map Prod.fst ∧
        node = .script [head.node]) → t.kind = .func := by
      intro hhead
      obtain ⟨head, hprefix, -⟩ := hhead
      exact CallHead.kind_of_isPrefix hprefix
    rcases step_true_start t with ⟨hkind, hstep⟩ | ⟨hkind, hstep⟩ | ⟨hkind, hstep⟩ |
      ⟨hkind, hstep⟩ | ⟨hdone, heol, hcomment, hfunc, expected, hstep⟩
    · have hnone := mt hcall fun hfunc => by simp [hfunc] at hkind
      rw [checked_readTree_of_stop hstep, Node.findError?_script, Node.findErrorIn?_nil]
      simp [hkind, hnone]
    · have hnone := mt hcall fun hfunc => by simp [hfunc] at hkind
      rw [checked_readTree_of_more hstep]
      simp only [hkind, hnone, reduceCtorEq, false_and, false_or, true_and]
      exact ih (h.tail (by simp [Token.isLast, hkind])) _
    · have hnone := mt hcall fun hfunc => by simp [hfunc] at hkind
      rw [checked_readTree_of_stop hstep, Node.findError?_script, Node.findErrorIn?_singleton,
        Node.findError?_leaf_comment]
      simp [hkind, hnone]
    · rw [checked_readTree_of_more hstep]
      simp only [hkind, reduceCtorEq, false_and, false_or, or_false]
      have hclean : CleanCalls [] := by simp [CleanCalls]
      exact (checked_inCall_iff (h.tail (by simp [Token.isLast, hkind])) _ hkind hclean node).1
    · rw [checked_readTree_of_stop hstep, Node.findError?_script, Node.findErrorIn?_singleton,
        findError?_errorNode]
      simp [hdone, heol, hcomment, mt hcall hfunc]

end ScriptState

/-- After a failure a parser accepts what it has not read, with a tree, exactly if it begins with
the beginning of a script with that tree. -/
theorem Parser.checked_eq_ok_iff_of_failed {p : Parser} (hfailed : p.failed = true)
    {ks : List Token} (hks : p.stream.Yields ks) (node : Node) :
    p.script.checked = .ok node ↔ ∃ head : ScriptHead, head.tokens <+: ks ∧ node = head.node := by
  have hyields := TokenStream.yields_upcoming p.stream
  rw [hks.unique hyields, script, hfailed]
  exact ScriptState.checked_lineStart_iff hyields p node

/-- What a script stands for that is accepted after any requests. If no answer before held an
error, the tokens still to be read are a script of the grammar, and the tree is the tree of its
derivation: nothing is missing. If some answer did, the tree is that of the beginning of these
tokens up to the first argument of the first statement, and nothing is said of what follows. -/
theorem check_after_requests (source : String) (text : List Char) (requests : List Request) :
    ∃ ks, ((Parser.ofText source text).after requests).stream.Yields ks ∧
      ((Parser.ofText source text).hasComplained requests = false → ∀ node,
        ((Parser.ofText source text).after requests).script.checked = .ok node ↔
          ∃ script : ScriptPhrase, script.tokens = ks ∧ script.node = node) ∧
      ((Parser.ofText source text).hasComplained requests = true → ∀ node,
        ((Parser.ofText source text).after requests).script.checked = .ok node ↔
          ∃ head : ScriptHead, head.tokens <+: ks ∧ node = head.node) := by
  have hyields := TokenStream.yields_upcoming ((Parser.ofText source text).after requests).stream
  have hfailed : ((Parser.ofText source text).after requests).failed =
      (Parser.ofText source text).hasComplained requests :=
    (Parser.failed_after _ requests).trans (Bool.false_or _)
  refine ⟨_, hyields, ?_, ?_⟩
  · intro hnone node
    exact Parser.checked_eq_ok_iff_exists (hfailed.trans hnone) hyields node
  · intro hsome node
    exact Parser.checked_eq_ok_iff_of_failed (hfailed.trans hsome) hyields node

/-- A number in the place of a statement, and two calls on the lines below. -/
def strayNumber : List Char :=
  ['1', '\n', '@', 'a', '(', ')', '\n', '@', 'b', '(', ')']

/-- The number is complained of. The two calls behind it are a script, but the parser then accepts
the first of them alone. -/
theorem check_after_complaint_incomplete :
    (Parser.ofText "t" strayNumber).hasComplained [.check] = true ∧
      ∃ ks node, ((Parser.ofText "t" strayNumber).after [.check]).stream.Yields ks ∧
        ((Parser.ofText "t" strayNumber).after [.check]).script.checked = .ok node ∧
        node.children.length = 1 ∧
        (∃ script : ScriptPhrase, script.tokens = ks ∧ script.node.children.length = 2) ∧
        ¬ ∃ script : ScriptPhrase, script.tokens = ks ∧ script.node = node := by
  let p := (Parser.ofText "t" strayNumber).after [.check]
  have hyields := TokenStream.yields_upcoming p.stream
  -- a parser that stands where this one does and has not failed accepts both calls
  let fresh : Parser := { stream := p.stream }
  have hfresh : fresh.script.checked = .ok fresh.script.node := Parsed.checked_of_eq_none rfl
  have hboth : fresh.script.node.children.length = 2 := rfl
  have hfirst : p.script.node.children.length = 1 := rfl
  obtain ⟨script, htokens, hnode⟩ :=
    (fresh.checked_eq_ok_iff_exists rfl hyields fresh.script.node).mp hfresh
  refine ⟨rfl, _, p.script.node, hyields, Parsed.checked_of_eq_none rfl, hfirst,
    ⟨script, htokens, hnode ▸ hboth⟩, ?_⟩
  intro hother
  obtain ⟨other, hother, hsame⟩ := hother
  obtain rfl : other = script := ScriptPhrase.eq_of_tokens_eq (hother.trans htokens.symm)
  rw [hsame] at hnode
  rw [hnode, hboth] at hfirst
  cases hfirst

end CallScript
