import CallScript.Tree.Parser
import CallScript.Proofs.TokenSequence

/-!
# Runs of the parser

Reading a script is a row of steps, one for each token, that stops at the last token of the stream
at the latest. While reading goes on the tree built so far holds no error node. So a script that
was read to its end holds none, and a script that was not holds exactly the error node of the token
at which reading stopped.
-/

namespace CallScript

/-! ## The first error node -/

namespace Node

/-- The first error node of two rows in a row. -/
@[simp] theorem findErrorIn?_append (nodes more : List Node) :
    findErrorIn? (nodes ++ more) = (findErrorIn? nodes).or (findErrorIn? more) := by
  induction nodes with
  | nil => rfl
  | cons node nodes ih => simp [findErrorIn?, ih, Option.or_assoc]

@[simp] theorem findErrorIn?_nil : findErrorIn? [] = none := by
  simp [findErrorIn?]

@[simp] theorem findErrorIn?_singleton (node : Node) : findErrorIn? [node] = node.findError? := by
  simp [findErrorIn?]

/-- A node that is no error is searched through its children. -/
theorem findError?_of_ne {kind : NodeKind} (h : kind ≠ .error) (token : Option Token)
    (children : List Node) : (Node.mk kind token children).findError? = findErrorIn? children := by
  simp [findError?, h]

@[simp] theorem findError?_script (statements : List Node) :
    (script statements).findError? = findErrorIn? statements :=
  findError?_of_ne (by decide) _ _

@[simp] theorem findError?_nested (call : Node) : (nested call).findError? = call.findError? := by
  rw [nested, findError?_of_ne (by decide), findErrorIn?_singleton]

@[simp] theorem findError?_leaf_argument (token : Token) :
    (leaf .argument token).findError? = none := by
  rw [leaf, findError?_of_ne (by decide), findErrorIn?_nil]

@[simp] theorem findError?_leaf_comment (token : Token) :
    (leaf .comment token).findError? = none := by
  rw [leaf, findError?_of_ne (by decide), findErrorIn?_nil]

end Node

@[simp] theorem findError?_errorNode (token : Token) (expected : String) :
    (errorNode token expected).findError? = some (errorNode token expected) := by
  simp [errorNode, Node.leaf, Node.findError?]

@[simp] theorem OpenCall.findError?_node (call : OpenCall) :
    call.node.findError? = Node.findErrorIn? call.arguments :=
  Node.findError?_of_ne (by decide) _ _

/-! ## Trees without error nodes -/

/-- None of the arguments read so far holds an error node. -/
def CleanCalls (calls : List OpenCall) : Prop :=
  ∀ call ∈ calls, Node.findErrorIn? call.arguments = none

/-- Closing the calls around a call adds no error node. -/
theorem findError?_closeAround {calls : List OpenCall} (h : CleanCalls calls) (call : Node) :
    (closeAround call calls).findError? = call.findError? := by
  induction calls generalizing call with
  | nil => rfl
  | cons outer calls ih =>
    have houter : Node.findErrorIn? outer.arguments = none := h outer List.mem_cons_self
    have hcalls : CleanCalls calls := fun c hc => h c (List.mem_cons_of_mem _ hc)
    rw [closeAround, ih hcalls]
    simp [OpenCall.push, houter]

/-- Closing open calls with a last argument adds no error node to that argument. -/
theorem findError?_closeWith {calls : List OpenCall} (h : CleanCalls calls) (last : Node) :
    (closeWith last calls).findError? = last.findError? := by
  cases calls with
  | nil => rfl
  | cons call calls =>
    have hcall : Node.findErrorIn? call.arguments = none := h call List.mem_cons_self
    have hcalls : CleanCalls calls := fun c hc => h c (List.mem_cons_of_mem _ hc)
    rw [closeWith, findError?_closeAround hcalls]
    simp [OpenCall.push, hcall]

/-- What a tree says about the token at which reading stopped: nothing if reading succeeded, else
its first error node is that token's. -/
def Reports (token : Token) (tree : Node) (failed : Bool) : Prop :=
  if failed then ∃ expected, tree.findError? = some (errorNode token expected)
  else tree.findError? = none

namespace CallState

/-- The calls whose arguments are being read, the innermost first. -/
def calls : CallState → List OpenCall
  | .named _ outer => outer
  | .opened call outer | .divided call outer | .filled call outer => call :: outer

/-- A step from a state without error nodes leads to such a state, or stops with a tree that
reports the token. -/
def CleanStep (token : Token) : Step CallState → Prop
  | .more state => CleanCalls state.calls
  | .stop tree failed => Reports token tree failed

/-- Stopping at a token reports it. -/
theorem cleanStep_refuse {calls : List OpenCall} (h : CleanCalls calls) (token : Token)
    (expected : String) : CleanStep token (refuse token expected calls) := by
  refine ⟨expected, ?_⟩
  rw [findError?_closeWith h, findError?_errorNode]

/-- An argument without error nodes keeps its call clean. -/
theorem cleanCalls_push {call : OpenCall} {outer : List OpenCall} (h : CleanCalls (call :: outer))
    {argument : Node} (hargument : argument.findError? = none) :
    CleanCalls (call.push argument :: outer) := by
  intro c hc
  rcases List.mem_cons.mp hc with rfl | hc
  · simp [OpenCall.push, h call List.mem_cons_self, hargument]
  · exact h c (List.mem_cons_of_mem _ hc)

/-- Completing a call keeps the calls around it clean. -/
theorem cleanStep_afterCall {call : OpenCall} {outer : List OpenCall}
    (h : CleanCalls (call :: outer)) (token : Token) :
    CleanStep token (afterCall false call outer) := by
  have hcall : call.node.findError? = none := by simp [h call List.mem_cons_self]
  cases outer with
  | nil => exact hcall
  | cons around outer =>
    have houter : CleanCalls (around :: outer) := fun c hc => h c (List.mem_cons_of_mem _ hc)
    exact cleanCalls_push houter (by simpa using hcall)

/-- Beginning an argument keeps the calls clean. -/
theorem cleanStep_beginArgument {call : OpenCall} {outer : List OpenCall}
    (h : CleanCalls (call :: outer)) (token : Token) :
    CleanStep token (beginArgument false token call outer) := by
  unfold beginArgument
  split
  · exact cleanCalls_push h (by simp)
  · exact cleanCalls_push h (by simp)
  · exact h
  · exact cleanStep_refuse h token _

/-- One step of reading a call. -/
theorem cleanStep_step {state : CallState} (h : CleanCalls state.calls) (token : Token) :
    CleanStep token (state.step false token) := by
  cases state with
  | named name outer =>
    simp only [step]
    split
    · intro call hcall
      rcases List.mem_cons.mp hcall with rfl | hcall
      · simp
      · exact h call hcall
    · exact cleanStep_refuse h token _
  | opened call outer =>
    simp only [step]
    split
    · exact cleanStep_afterCall h token
    · exact cleanStep_beginArgument h token
  | divided call outer => exact cleanStep_beginArgument h token
  | filled call outer =>
    simp only [step]
    split
    · exact cleanStep_afterCall h token
    · split
      · exact h
      · exact cleanStep_refuse h token _

end CallState

namespace ScriptState

/-- Nothing read so far holds an error node. -/
def Clean (state : ScriptState) : Prop :=
  Node.findErrorIn? state.statements = none ∧
    match state.phase with
    | .inCall call => CleanCalls call.calls
    | _ => True

/-- A step from a state without error nodes leads to such a state, or stops with a tree that
reports the token. -/
def CleanStep (token : Token) : Step ScriptState → Prop
  | .more state => state.Clean
  | .stop tree failed => Reports token tree failed

/-- Stopping at a token reports it. -/
theorem cleanStep_refuse {statements : List Node} (h : Node.findErrorIn? statements = none)
    (token : Token) (expected : String) : CleanStep token (refuse token expected statements) := by
  refine ⟨expected, ?_⟩
  simp [h]

/-- A complete statement without error nodes is taken up. -/
theorem cleanStep_afterStatement {statements : List Node}
    (h : Node.findErrorIn? statements = none) {token : Token} {statement : Node} {failed : Bool}
    (hstatement : Reports token statement failed) :
    CleanStep token (afterStatement failed statements statement) := by
  cases failed with
  | false =>
    have hclean : statement.findError? = none := hstatement
    exact ⟨by simp [h, hclean], trivial⟩
  | true =>
    obtain ⟨expected, herror⟩ := hstatement
    exact ⟨expected, by simp [h, herror]⟩

/-- One step of reading a script. -/
theorem cleanStep_step {state : ScriptState} (h : state.Clean) (token : Token) :
    CleanStep token (state.step false token) := by
  obtain ⟨statements, phase⟩ := state
  obtain ⟨hstatements, hphase⟩ := h
  cases phase with
  | lineStart =>
    simp only [step]
    split
    · exact (Node.findError?_script statements).trans hstatements
    · exact ⟨hstatements, trivial⟩
    · exact cleanStep_afterStatement hstatements (Node.findError?_leaf_comment token)
    · exact ⟨hstatements, by simp [CallState.calls, CleanCalls]⟩
    · exact cleanStep_refuse hstatements token _
  | inCall call =>
    have hcall := CallState.cleanStep_step hphase token
    simp only [step]
    cases hstep : call.step false token with
    | more call' =>
      rw [hstep] at hcall
      exact ⟨hstatements, hcall⟩
    | stop tree failed =>
      rw [hstep] at hcall
      exact cleanStep_afterStatement hstatements hcall
  | lineEnd =>
    simp only [step]
    split
    · exact ⟨hstatements, trivial⟩
    · exact (Node.findError?_script statements).trans hstatements
    · exact cleanStep_refuse hstatements token _

end ScriptState

/-! ## Where a run stops -/

/-- The end of the input and an error complete no argument and no call. -/
theorem CallState.step_of_isLast (failed : Bool) (state : CallState) {token : Token}
    (h : token.isLast = true) : ∃ tree, state.step failed token = .stop tree true := by
  have hkind : token.kind = .done ∨ token.kind = .error := by simpa [Token.isLast] using h
  cases state <;> rcases hkind with hkind | hkind <;>
    simp [step, beginArgument, refuse, hkind]

namespace ScriptState

/-- No step goes on behind the end of the input or an error. -/
theorem step_of_isLast (failed : Bool) (state : ScriptState) {token : Token}
    (h : token.isLast = true) : ∃ tree failed', state.step failed token = .stop tree failed' := by
  have hkind : token.kind = .done ∨ token.kind = .error := by simpa [Token.isLast] using h
  obtain ⟨statements, phase⟩ := state
  cases phase with
  | lineStart => rcases hkind with hkind | hkind <;> simp [step, refuse, hkind]
  | inCall call =>
    obtain ⟨tree, hstep⟩ := call.step_of_isLast failed h
    simp [step, hstep, afterStatement]
  | lineEnd => rcases hkind with hkind | hkind <;> simp [step, refuse, hkind]

/-- A token behind which reading goes on is not the last one. -/
theorem isLast_of_step_eq_more {state next : ScriptState} {token : Token}
    (h : state.step false token = .more next) : token.isLast = false := by
  cases hlast : token.isLast with
  | false => rfl
  | true =>
    obtain ⟨tree, failed, hstop⟩ := state.step_of_isLast false hlast
    rw [hstop] at h
    cases h

/-- A script is complete at the end of the input only. -/
theorem kind_of_step_eq_stop {state : ScriptState} {token : Token} {tree : Node}
    (h : state.step false token = .stop tree false) : token.kind = .done := by
  obtain ⟨statements, phase⟩ := state
  cases phase with
  | lineStart =>
    simp only [step] at h
    split at h
    · assumption
    all_goals simp [afterStatement, refuse] at h
  | inCall call =>
    simp only [step] at h
    split at h
    · simp at h
    · next failed _ => cases failed <;> simp [afterStatement] at h
  | lineEnd =>
    simp only [step] at h
    split at h
    · simp at h
    · assumption
    · simp [refuse] at h

/-- Reading the tokens leads from one state to another without a stop. -/
def Reaches : ScriptState → List Token → ScriptState → Prop
  | state, [], state' => state' = state
  | state, t :: ts, state' => ∃ next : ScriptState, state.step false t = .more next ∧ next.Reaches ts state'

/-- States that are reached from a state without error nodes have none. -/
theorem Reaches.clean {state state' : ScriptState} {ts : List Token} (h : state.Reaches ts state')
    (hclean : state.Clean) : state'.Clean := by
  induction ts generalizing state with
  | nil => exact h ▸ hclean
  | cons t ts ih =>
    obtain ⟨next, hstep, hreaches⟩ := h
    have hnext := cleanStep_step hclean t
    rw [hstep] at hnext
    exact ih hreaches hnext

/-- A run over the tokens of a stream stops at one of them, and at the last one if it does not
fail. -/
theorem exists_stop (state : ScriptState) (p : Parser) {s : TokenStream}
    {tokens : List (Token × TokenStream)} (h : s.Yields (tokens.map Prod.fst)) :
    ∃ (ts : List Token) (t : Token) (us : List Token) (state' : ScriptState) (failed : Bool),
      tokens.map Prod.fst = ts ++ t :: us ∧ state.Reaches ts state' ∧
      state'.step false t = .stop (readTree (step false) close state p tokens).node failed ∧
      (failed = false → us = []) := by
  induction tokens generalizing state p s with
  | nil => cases h
  | cons first rest ih =>
    obtain ⟨t, stream⟩ := first
    simp only [readTree, List.map_cons] at h ⊢
    cases hstep : state.step false t with
    | stop tree failed =>
      refine ⟨[], t, rest.map Prod.fst, state, failed, rfl, rfl, hstep, ?_⟩
      intro heq
      subst heq
      exact h.eq_nil (by simp [Token.isLast, kind_of_step_eq_stop hstep])
    | more next =>
      obtain ⟨ts, t', us, state', failed, htokens, hreaches, hstop, hend⟩ :=
        ih next { p with stream := stream } (h.tail (isLast_of_step_eq_more hstep))
      exact ⟨t :: ts, t', us, state', failed, by rw [htokens, List.cons_append],
        ⟨next, hstep, hreaches⟩, hstop, hend⟩

end ScriptState

/-- The state in which a script is begun. -/
def ScriptState.start : ScriptState :=
  ⟨[], .lineStart⟩

/-- How the reading of a script ends if the parser has not failed before: the tokens read without a
stop, the token at which reading stopped, the tokens behind it, and the state before the stop. The
tree reports that token. -/
theorem Parser.exists_stop_script {p : Parser} (hfailed : p.failed = false) {ks : List Token}
    (hks : p.stream.Yields ks) :
    ∃ (ts : List Token) (t : Token) (us : List Token) (state : ScriptState) (failed : Bool),
      ks = ts ++ t :: us ∧ ScriptState.start.Reaches ts state ∧
      state.step false t = .stop p.script.node failed ∧
      (failed = false → us = []) ∧ Reports t p.script.node failed := by
  have hyields := TokenStream.yields_upcoming p.stream
  rw [hks.unique hyields, script, hfailed]
  obtain ⟨ts, t, us, state, failed, htokens, hreaches, hstop, hend⟩ :=
    ScriptState.start.exists_stop p hyields
  refine ⟨ts, t, us, state, failed, htokens, hreaches, hstop, hend, ?_⟩
  have hclean : state.Clean := hreaches.clean ⟨rfl, trivial⟩
  have hreport := ScriptState.cleanStep_step hclean t
  rw [hstop] at hreport
  exact hreport

/-- How the reading of a text ends. -/
theorem exists_stop_parseScript {source : String} {text : List Char} {ks : List Token}
    (hks : (TokenStream.ofText source text).Yields ks) :
    ∃ (ts : List Token) (t : Token) (us : List Token) (state : ScriptState) (failed : Bool),
      ks = ts ++ t :: us ∧ ScriptState.start.Reaches ts state ∧
      state.step false t = .stop (parseScript source text) failed ∧
      (failed = false → us = []) ∧ Reports t (parseScript source text) failed :=
  Parser.exists_stop_script rfl hks

/-- A tree without an error node is the answer. -/
theorem Parsed.checked_of_eq_none {parsed : Parsed} (h : parsed.node.findError? = none) :
    parsed.checked = .ok parsed.node := by
  rw [checked, h]

/-- The first error node of a tree is what the answer is about. -/
theorem Parsed.checked_of_eq_some {parsed : Parsed} {token : Token}
    (h : parsed.node.findError? = some (.leaf .error token)) :
    parsed.checked = .error ⟨token.position, token.value.render⟩ := by
  rw [checked, h]
  rfl

/-- The tree of a text without an error node is the answer to the text. -/
theorem parseChecked_of_eq_none {source : String} {text : List Char}
    (h : (parseScript source text).findError? = none) :
    parseChecked source text = .ok (parseScript source text) :=
  Parsed.checked_of_eq_none h

/-- The first error node of the tree of a text is what the answer to the text is about. -/
theorem parseChecked_of_eq_some {source : String} {text : List Char} {token : Token}
    (h : (parseScript source text).findError? = some (.leaf .error token)) :
    parseChecked source text = .error ⟨token.position, token.value.render⟩ :=
  Parsed.checked_of_eq_some h

end CallScript
