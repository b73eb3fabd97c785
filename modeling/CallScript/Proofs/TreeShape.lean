import CallScript.Proofs.EvaluationErrors
import CallScript.Proofs.TokenValues

/-!
# The shape of a tree

Each kind of node has a shape of its own, and a parser builds no others, also where it gives up: the
open calls are then closed as they are, around an error that is the last node of the tree. One step
keeps to this for the calls that are still open, and a script is built by such steps.
-/

namespace CallScript

/-- The token is a function name, and the name has some characters. -/
def Token.NamesFunction (token : Token) : Prop :=
  token.kind = .func ∧ ∃ name, name ≠ "" ∧ token.value = .funcName name

/-- A sound token that is a function name names a function. -/
theorem Token.IsSound.namesFunction {token : Token} (h : token.IsSound)
    (hkind : token.kind = .func) : token.NamesFunction := by
  rw [IsSound, hkind] at h
  generalize hvalue : token.value = value at h
  cases h with
  | func hne => exact ⟨hkind, _, hne, hvalue⟩

namespace Node

/-- A statement of a script, or the error in its place. -/
def IsStatement (node : Node) : Prop :=
  node.kind = .comment ∨ node.kind = .call ∨ node.kind = .error

/-- An argument of a call, or the error in its place. -/
def IsArgument (node : Node) : Prop :=
  node.kind = .argument ∨ node.kind = .error

/-- The shape that a node has by its kind. -/
inductive IsRegular : Node → Prop where
  | script {statements : List Node} (hstatements : ∀ child ∈ statements, child.IsStatement) :
      IsRegular (script statements)
  | comment {token : Token} (hkind : token.kind = .comment) : IsRegular (leaf .comment token)
  | call {token : Token} {arguments : List Node} (hname : token.NamesFunction)
      (harguments : ∀ child ∈ arguments, child.IsArgument) :
      IsRegular (.mk .call (some token) arguments)
  | field {token : Token} {path : FieldPath} (hkind : token.kind = .field)
      (hvalue : token.value = .fieldName path) : IsRegular (leaf .argument token)
  | literal {token : Token} (hkind : token.kind = .literal) (hvalue : token.value.IsLiteral) :
      IsRegular (leaf .argument token)
  | nested {call : Node} (hcall : call.kind = .call) : IsRegular (nested call)
  | error {token : Token} {message : String} (hkind : token.kind = .error)
      (hvalue : token.value = .error message) : IsRegular (leaf .error token)

/-- A field or literal that is sound makes a regular argument. -/
theorem isRegular_leaf_argument {token : Token} (h : token.IsSound)
    (hkind : token.kind = .field ∨ token.kind = .literal) : (leaf .argument token).IsRegular := by
  unfold Token.IsSound at h
  generalize hvalue : token.value = value at h
  rcases hkind with hkind | hkind
  · rw [hkind] at h
    cases h with
    | field path => exact .field hkind hvalue
  · rw [hkind] at h
    cases h with
    | literal hliteral => exact .literal hkind (hvalue ▸ hliteral)

/-- A call that is regular names a function. -/
theorem IsRegular.exists_name {node : Node} (h : node.IsRegular) (hkind : node.kind = .call) :
    ∃ name, name ≠ "" ∧ node.value = .funcName name := by
  cases h with
  | call hname _ =>
    obtain ⟨_, name, hne, hvalue⟩ := hname
    exact ⟨name, hne, hvalue⟩
  | _ => cases hkind

/-! ## Rows that end in an error at most -/

@[simp] theorem preorderIn_append (nodes more : List Node) :
    preorderIn (nodes ++ more) = preorderIn nodes ++ preorderIn more := by
  simp only [preorderIn_eq_flatMap, List.flatMap_append]

@[simp] theorem preorderIn_singleton (node : Node) : preorderIn [node] = node.preorder := by
  simp only [preorderIn, List.append_nil]

/-- All nodes of a row are regular and no errors, up to the given last ones. -/
def RegularUpTo (tail nodes : List Node) : Prop :=
  ∃ body, preorderIn nodes = body ++ tail ∧ ∀ n ∈ body, n.IsRegular ∧ n.isError = false

theorem RegularUpTo.nil : RegularUpTo [] [] :=
  ⟨[], rfl, by simp⟩

/-- A row without errors may stand before any other. -/
theorem RegularUpTo.append {tail nodes more : List Node} (h : RegularUpTo [] nodes)
    (hmore : RegularUpTo tail more) : RegularUpTo tail (nodes ++ more) := by
  obtain ⟨body, hbody, hall⟩ := h
  obtain ⟨body', hbody', hall'⟩ := hmore
  refine ⟨body ++ body', ?_, List.forall_mem_append.mpr ⟨hall, hall'⟩⟩
  rw [preorderIn_append, hbody, hbody', List.append_nil, List.append_assoc]

/-- A regular node over a row ends as the row does. -/
theorem RegularUpTo.over {tail children : List Node} (h : RegularUpTo tail children)
    {kind : NodeKind} {token : Option Token} (hregular : (Node.mk kind token children).IsRegular)
    (hkind : kind ≠ .error) : RegularUpTo tail [.mk kind token children] := by
  obtain ⟨body, hbody, hall⟩ := h
  refine ⟨.mk kind token children :: body, ?_, List.forall_mem_cons.mpr ⟨⟨hregular, ?_⟩, hall⟩⟩
  · rw [preorderIn_singleton, preorder, hbody, List.cons_append]
  · simpa [isError, Node.kind] using hkind

/-- The end of a tree: an error if reading it failed, else nothing. -/
def IsEnding (failed : Bool) (tail : List Node) : Prop :=
  if failed then ∃ e : Node, e.IsRegular ∧ e.isError = true ∧ tail = [e] else tail = []

/-- The tree is regular and ends in an error if reading it failed, and otherwise holds none. -/
def EndsRegularly (failed : Bool) (tree : Node) : Prop :=
  ∃ tail, IsEnding failed tail ∧ RegularUpTo tail [tree]

end Node

/-- The error node for a sound token is regular. -/
theorem isRegular_errorNode {token : Token} (h : token.IsSound) (expected : String) :
    (errorNode token expected).IsRegular := by
  unfold errorNode
  split
  · next hkind =>
    rw [Token.IsSound, hkind] at h
    generalize hvalue : token.value = value at h
    cases h with
    | error message => exact .error hkind hvalue
  · exact .error rfl rfl

/-- An error node alone is its own end. -/
theorem regularUpTo_errorNode (token : Token) (expected : String) :
    Node.RegularUpTo [errorNode token expected] [errorNode token expected] :=
  ⟨[], Node.preorderIn_singleton _, by simp⟩

/-! ## Open calls -/

namespace OpenCall

/-- The call names a function and its arguments so far are regular and no errors. -/
structure IsRegular (call : OpenCall) : Prop where
  name : call.name.NamesFunction
  arguments : ∀ child ∈ call.arguments, child.IsArgument
  regular : Node.RegularUpTo [] call.arguments

variable {call : OpenCall}

theorem IsRegular.empty {name : Token} (h : name.NamesFunction) : IsRegular ⟨name, []⟩ :=
  ⟨h, by simp, .nil⟩

/-- One more argument, whatever it ends in, makes a call that ends so. -/
theorem IsRegular.regularUpTo_push (h : call.IsRegular) {last : Node} {tail : List Node}
    (hlast : last.IsArgument) (hregular : Node.RegularUpTo tail [last]) :
    Node.RegularUpTo tail [(call.push last).node] := by
  have hrow : ∀ child ∈ call.arguments ++ [last], child.IsArgument :=
    List.forall_mem_append.mpr ⟨h.arguments, List.forall_mem_singleton.mpr hlast⟩
  exact (h.regular.append hregular).over (.call h.name hrow) (by decide)

/-- One more argument without errors leaves the call regular. -/
theorem IsRegular.push (h : call.IsRegular) {argument : Node} (hargument : argument.IsArgument)
    (hregular : Node.RegularUpTo [] [argument]) : (call.push argument).IsRegular :=
  ⟨h.name, List.forall_mem_append.mpr ⟨h.arguments, List.forall_mem_singleton.mpr hargument⟩,
    h.regular.append hregular⟩

theorem IsRegular.regularUpTo_node (h : call.IsRegular) : Node.RegularUpTo [] [call.node] :=
  h.regular.over (.call h.name h.arguments) (by decide)

/-- A call in the place of an argument ends as it does alone. -/
theorem regularUpTo_nested {call : Node} {tail : List Node} (hkind : call.kind = .call)
    (h : Node.RegularUpTo tail [call]) : Node.RegularUpTo tail [.nested call] :=
  h.over (.nested hkind) (by decide)

/-- Closing the calls around a call keeps the end of the tree. -/
theorem regularUpTo_closeAround {calls : List OpenCall} (h : ∀ c ∈ calls, c.IsRegular)
    {call : Node} {tail : List Node} (hkind : call.kind = .call)
    (hregular : Node.RegularUpTo tail [call]) :
    (closeAround call calls).kind = .call ∧ Node.RegularUpTo tail [closeAround call calls] := by
  induction calls generalizing call with
  | nil => exact ⟨hkind, hregular⟩
  | cons outer calls ih =>
    obtain ⟨houter, hcalls⟩ := List.forall_mem_cons.mp h
    exact ih hcalls rfl (houter.regularUpTo_push (.inl rfl) (regularUpTo_nested hkind hregular))

/-- Open calls that are closed around a last argument end as that argument does. -/
theorem regularUpTo_closeWith {calls : List OpenCall} (h : ∀ c ∈ calls, c.IsRegular) {last : Node}
    {tail : List Node} (hlast : last.IsArgument) (hregular : Node.RegularUpTo tail [last]) :
    (closeWith last calls = last ∨ (closeWith last calls).kind = .call) ∧
      Node.RegularUpTo tail [closeWith last calls] := by
  cases calls with
  | nil => exact ⟨.inl rfl, hregular⟩
  | cons call calls =>
    obtain ⟨hcall, hcalls⟩ := List.forall_mem_cons.mp h
    obtain ⟨hkind, hclosed⟩ :=
      regularUpTo_closeAround hcalls rfl (hcall.regularUpTo_push hlast hregular)
    exact ⟨.inr hkind, hclosed⟩

end OpenCall

/-! ## Steps -/

namespace CallState

/-- What a token does to the state of a call. -/
inductive Steps (failed : Bool) (token : Token) : CallState → Step CallState → Prop where
  | opened {name : Token} {outer : List OpenCall} (hkind : token.kind = .openParen) :
      Steps failed token (.named name outer) (.more (.opened ⟨name, []⟩ outer))
  | divided {call : OpenCall} {outer : List OpenCall} (hkind : token.kind = .comma) :
      Steps failed token (.filled call outer) (.more (.divided call outer))
  | nested {state : CallState} (hkind : token.kind = .func) :
      Steps failed token state (.more (.named token state.calls))
  | argument {state : CallState} {call : OpenCall} {outer : List OpenCall}
      (hcalls : state.calls = call :: outer)
      (hkind : token.kind = .field ∨ token.kind = .literal) :
      Steps failed token state (afterArgument failed (.leaf .argument token) call outer)
  | closed {state : CallState} {call : OpenCall} {outer : List OpenCall}
      (hcalls : state.calls = call :: outer) (hkind : token.kind = .closeParen) :
      Steps failed token state (afterCall failed call outer)
  | refused {state : CallState} (expected : String) :
      Steps failed token state (refuse token expected state.calls)

/-- A token that has to begin an argument is one, or begins a call, or is refused. -/
theorem steps_beginArgument (failed : Bool) (token : Token) {state : CallState} {call : OpenCall}
    {outer : List OpenCall} (hcalls : state.calls = call :: outer) :
    Steps failed token state (beginArgument failed token call outer) := by
  unfold beginArgument
  split
  · next hkind => exact .argument hcalls (.inl hkind)
  · next hkind => exact .argument hcalls (.inr hkind)
  · next hkind => exact hcalls ▸ .nested hkind
  · exact hcalls ▸ .refused _

/-- Every step is one of these. -/
theorem steps_step (failed : Bool) (state : CallState) (token : Token) :
    Steps failed token state (state.step failed token) := by
  cases state with
  | named name outer =>
    simp only [step]
    split
    · next hkind => exact .opened hkind
    · exact .refused _
  | opened call outer =>
    simp only [step]
    split
    · next hkind => exact .closed rfl hkind
    · exact steps_beginArgument failed token rfl
  | divided call outer => exact steps_beginArgument failed token rfl
  | filled call outer =>
    simp only [step]
    split
    · next hkind => exact .closed rfl hkind
    · split
      · next hkind => exact .divided hkind
      · exact .refused _

/-- All open calls are regular, and a name without its parenthesis names a function. -/
structure IsRegular (state : CallState) : Prop where
  calls : ∀ call ∈ state.calls, call.IsRegular
  name : ∀ name outer, state = .named name outer → name.NamesFunction

/-- A step leads to a regular state, or stops with a statement that ends regularly. -/
def RegularStep : Step CallState → Prop
  | .more state => state.IsRegular
  | .stop tree failed => tree.IsStatement ∧ tree.EndsRegularly failed

/-- A state behind an opening parenthesis is regular if its calls are. -/
theorem isRegular_of_calls {state : CallState} (h : ∀ call ∈ state.calls, call.IsRegular)
    (hname : ∀ name outer, state ≠ .named name outer) : state.IsRegular :=
  ⟨h, fun name outer heq => absurd heq (hname name outer)⟩

/-- An argument without errors keeps its call regular. -/
theorem regularStep_afterArgument {call : OpenCall} {outer : List OpenCall}
    (h : ∀ c ∈ call :: outer, c.IsRegular) {argument : Node} (hkind : argument.kind = .argument)
    (hregular : Node.RegularUpTo [] [argument]) :
    RegularStep (afterArgument false argument call outer) := by
  obtain ⟨hcall, houter⟩ := List.forall_mem_cons.mp h
  exact isRegular_of_calls
    (List.forall_mem_cons.mpr ⟨hcall.push (.inl hkind) hregular, houter⟩) (by simp)

/-- A complete call is the tree, or an argument of the call around it. -/
theorem regularStep_afterCall {call : OpenCall} {outer : List OpenCall}
    (h : ∀ c ∈ call :: outer, c.IsRegular) : RegularStep (afterCall false call outer) := by
  obtain ⟨hcall, houter⟩ := List.forall_mem_cons.mp h
  cases outer with
  | nil => exact ⟨.inr (.inl rfl), [], rfl, hcall.regularUpTo_node⟩
  | cons around outer =>
    exact regularStep_afterArgument houter rfl
      (OpenCall.regularUpTo_nested rfl hcall.regularUpTo_node)

/-- A refused token is the last node of the tree. -/
theorem regularStep_refuse {calls : List OpenCall} (h : ∀ c ∈ calls, c.IsRegular) {token : Token}
    (htoken : token.IsSound) (expected : String) : RegularStep (refuse token expected calls) := by
  have herror : (errorNode token expected).IsArgument := .inr rfl
  obtain ⟨hroot, hregular⟩ :=
    OpenCall.regularUpTo_closeWith h herror (regularUpTo_errorNode token expected)
  refine ⟨?_, _, ⟨_, isRegular_errorNode htoken expected, rfl, rfl⟩, hregular⟩
  rcases hroot with hroot | hroot
  · exact .inr (.inr (by rw [hroot]; rfl))
  · exact .inr (.inl hroot)

/-- One step of reading a call. -/
theorem regularStep_step {state : CallState} (h : state.IsRegular) {token : Token}
    (htoken : token.IsSound) : RegularStep (state.step false token) := by
  have hsteps := steps_step false state token
  generalize state.step false token = result at hsteps
  -- the calls around are not touched, so only the innermost call is to be looked at
  cases hsteps with
  | @opened name outer =>
    have hempty : OpenCall.IsRegular ⟨name, []⟩ := .empty (h.name name outer rfl)
    exact isRegular_of_calls (List.forall_mem_cons.mpr ⟨hempty, h.calls⟩) (by simp)
  | divided => exact isRegular_of_calls h.calls (by simp)
  | nested hkind =>
    refine ⟨h.calls, ?_⟩
    intro name outer heq
    cases heq
    exact htoken.namesFunction hkind
  | argument hcalls hkind =>
    have hleaf := Node.isRegular_leaf_argument htoken hkind
    exact regularStep_afterArgument (hcalls ▸ h.calls) rfl
      (Node.RegularUpTo.nil.over hleaf (by decide))
  | closed hcalls hkind => exact regularStep_afterCall (hcalls ▸ h.calls)
  | refused expected => exact regularStep_refuse h.calls htoken expected

end CallState

namespace ScriptState

/-- The statements so far are regular and no errors, and so are the arguments of the call that is
being read. -/
structure IsRegular (state : ScriptState) : Prop where
  statements : ∀ child ∈ state.statements, child.IsStatement
  regular : Node.RegularUpTo [] state.statements
  call : ∀ call, state.phase = .inCall call → call.IsRegular

/-- A step leads to a regular state, or stops with a script that ends regularly. -/
def RegularStep : Step ScriptState → Prop
  | .more state => state.IsRegular
  | .stop tree failed => (∃ statements, tree = .script statements) ∧ tree.EndsRegularly failed

/-- The statements so far with one more, which ends the script if it ends in an error. -/
theorem endsRegularly_script {statements : List Node}
    (hkinds : ∀ child ∈ statements, child.IsStatement)
    (hregular : Node.RegularUpTo [] statements) {statement : Node} (hkind : statement.IsStatement)
    {failed : Bool} (h : statement.EndsRegularly failed) :
    (Node.script (statements ++ [statement])).EndsRegularly failed := by
  obtain ⟨tail, hending, htail⟩ := h
  have hrow : ∀ child ∈ statements ++ [statement], child.IsStatement :=
    List.forall_mem_append.mpr ⟨hkinds, List.forall_mem_singleton.mpr hkind⟩
  exact ⟨tail, hending, (hregular.append htail).over (.script hrow) (by decide)⟩

variable {state : ScriptState}

/-- A script that is complete is regular and holds no error. -/
theorem IsRegular.endsRegularly (h : state.IsRegular) :
    (Node.script state.statements).EndsRegularly false :=
  ⟨[], rfl, h.regular.over (.script h.statements) (by decide)⟩

/-- A statement is taken up, or ends the script if it ends in an error. -/
theorem regularStep_afterStatement (h : state.IsRegular) {statement : Node}
    (hkind : statement.IsStatement) {failed : Bool} (hends : statement.EndsRegularly failed) :
    RegularStep (afterStatement failed state.statements statement) := by
  cases failed with
  | false =>
    obtain ⟨tail, rfl, hregular⟩ := hends
    exact ⟨List.forall_mem_append.mpr ⟨h.statements, List.forall_mem_singleton.mpr hkind⟩,
      h.regular.append hregular, nofun⟩
  | true => exact ⟨⟨_, rfl⟩, endsRegularly_script h.statements h.regular hkind hends⟩

/-- A refused token is the last node of the script. -/
theorem regularStep_refuse (h : state.IsRegular) {token : Token} (htoken : token.IsSound)
    (expected : String) : RegularStep (refuse token expected state.statements) := by
  have hends : (errorNode token expected).EndsRegularly true :=
    ⟨_, ⟨_, isRegular_errorNode htoken expected, rfl, rfl⟩, regularUpTo_errorNode token expected⟩
  exact ⟨⟨_, rfl⟩, endsRegularly_script h.statements h.regular (.inr (.inr rfl)) hends⟩

/-- One step of reading a script. -/
theorem regularStep_step (h : state.IsRegular) {token : Token} (htoken : token.IsSound) :
    RegularStep (state.step false token) := by
  unfold step
  split
  · split
    · exact ⟨⟨_, rfl⟩, h.endsRegularly⟩
    · exact h
    · next hkind =>
      have hcomment : Node.RegularUpTo [] [.leaf .comment token] :=
        Node.RegularUpTo.nil.over (.comment hkind) (by decide)
      exact regularStep_afterStatement h (.inl rfl) ⟨[], rfl, hcomment⟩
    · next hkind =>
      refine ⟨h.statements, h.regular, ?_⟩
      intro call heq
      cases heq
      refine ⟨by simp [CallState.calls], ?_⟩
      intro name outer heq
      cases heq
      exact htoken.namesFunction hkind
    · exact regularStep_refuse h htoken _
  · next call hphase =>
    have hcall := CallState.regularStep_step (h.call call hphase) htoken
    split
    · next call' hstep =>
      rw [hstep] at hcall
      refine ⟨h.statements, h.regular, ?_⟩
      intro call heq
      cases heq
      exact hcall
    · next statement failed hstep =>
      rw [hstep] at hcall
      exact regularStep_afterStatement h hcall.1 hcall.2
  · split
    · exact ⟨h.statements, h.regular, by simp⟩
    · exact ⟨⟨_, rfl⟩, h.endsRegularly⟩
    · exact regularStep_refuse h htoken _

/-- Sound tokens lead from regular states to regular states. -/
theorem Reaches.isRegular {state' : ScriptState} {ts : List Token} (h : state.Reaches ts state')
    (hregular : state.IsRegular) (hsound : ∀ t ∈ ts, t.IsSound) : state'.IsRegular := by
  induction ts generalizing state with
  | nil => exact h ▸ hregular
  | cons t ts ih =>
    obtain ⟨next, hstep, hreaches⟩ := h
    obtain ⟨ht, hts⟩ := List.forall_mem_cons.mp hsound
    have hnext := regularStep_step hregular ht
    rw [hstep] at hnext
    exact ih hreaches hnext hts

theorem isRegular_start : start.IsRegular :=
  ⟨by simp [start], .nil, nofun⟩

end ScriptState

/-! ## Trees of texts -/

namespace Node

/-- A tree that ends regularly is regular throughout, and its only error is its last node. -/
theorem EndsRegularly.preorder {failed : Bool} {tree : Node} (h : tree.EndsRegularly failed) :
    (∀ n ∈ tree.preorder, n.IsRegular) ∧ tree.preorder.countP isError ≤ 1 ∧
      ∀ n ∈ tree.preorder, n.isError = true → tree.preorder.getLast? = some n := by
  obtain ⟨tail, hending, body, hbody, hall⟩ := h
  rw [preorderIn_singleton] at hbody
  have hcount : body.countP isError = 0 :=
    List.countP_eq_zero.mpr fun n hn => by simp [(hall n hn).2]
  rw [hbody]
  cases failed with
  | false =>
    obtain rfl : tail = [] := hending
    rw [List.append_nil]
    refine ⟨fun n hn => (hall n hn).1, by omega, ?_⟩
    intro n hn herror
    rw [(hall n hn).2] at herror
    cases herror
  | true =>
    obtain ⟨e, hregular, he, rfl⟩ := hending
    refine ⟨?_, ?_, ?_⟩
    · exact List.forall_mem_append.mpr
        ⟨fun n hn => (hall n hn).1, List.forall_mem_singleton.mpr hregular⟩
    · simp [hcount, he]
    · intro n hn herror
      rcases List.mem_append.mp hn with hn | hn
      · rw [(hall n hn).2] at herror
        cases herror
      · rw [List.mem_singleton.mp hn, List.getLast?_concat]

/-- A call that names a function is made once its arguments have values. -/
theorem eval_of_kind_call {σ : Type} (call : String → List Value → σ → Value × σ) {node : Node}
    (hkind : node.kind = .call) {name : String} (hname : node.value = .funcName name) {s s' : σ}
    {arguments : List Value} (h : evalArguments call node.children s = (.ok arguments, s')) :
    node.eval call s = (.ok (call name arguments s').1, (call name arguments s').2) := by
  obtain ⟨kind, token, children⟩ := node
  obtain rfl : kind = .call := hkind
  exact eval_call_of_ok h hname

end Node

/-- The tree of a text is a script that ends regularly. -/
theorem endsRegularly_parseScript (source : String) (text : List Char) :
    (∃ statements, parseScript source text = .script statements) ∧
      ∃ failed, (parseScript source text).EndsRegularly failed := by
  have hyields := TokenStream.yields_upcoming (TokenStream.ofText source text)
  have hsound := hyields.isSound (by simp [TokenStream.ofText])
  obtain ⟨ts, t, us, state, failed, htokens, hreaches, hstop, _, _⟩ :=
    exists_stop_parseScript hyields
  rw [htokens] at hsound
  obtain ⟨hts, htail⟩ := List.forall_mem_append.mp hsound
  have hregular := hreaches.isRegular ScriptState.isRegular_start hts
  have hstep := ScriptState.regularStep_step hregular (htail t List.mem_cons_self)
  rw [hstop] at hstep
  exact ⟨hstep.1, failed, hstep.2⟩

/-- Every text has a script as its tree, each node of which has the shape of its kind. There is at
most one error node, and it is the last node of the tree. Every call names a function, so that one
whose arguments have values is made: no evaluation meets a call without a name. -/
theorem parseScript_regular (source : String) (text : List Char) :
    (∃ statements, parseScript source text = .script statements) ∧
      (∀ n ∈ (parseScript source text).preorder, n.IsRegular) ∧
      (parseScript source text).preorder.countP Node.isError ≤ 1 ∧
      (∀ n ∈ (parseScript source text).preorder, n.isError = true →
        (parseScript source text).preorder.getLast? = some n) ∧
      ∀ n ∈ (parseScript source text).preorder, n.kind = .call →
        ∃ name, name ≠ "" ∧ n.value = .funcName name ∧
          ∀ (σ : Type) (call : String → List Value → σ → Value × σ) (s s' : σ)
            (arguments : List Value), Node.evalArguments call n.children s = (.ok arguments, s') →
            n.eval call s = (.ok (call name arguments s').1, (call name arguments s').2) := by
  obtain ⟨hscript, failed, hends⟩ := endsRegularly_parseScript source text
  obtain ⟨hregular, hcount, hlast⟩ := hends.preorder
  refine ⟨hscript, hregular, hcount, hlast, ?_⟩
  intro n hn hkind
  obtain ⟨name, hne, hname⟩ := (hregular n hn).exists_name hkind
  refine ⟨name, hne, hname, ?_⟩
  intro σ call s s' arguments harguments
  exact Node.eval_of_kind_call call hkind hname harguments

end CallScript
