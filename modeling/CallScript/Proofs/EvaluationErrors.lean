import CallScript.Eval.Evaluation
import CallScript.Proofs.ParserRun

/-!
# Errors of an evaluation

A tree is searched for error nodes parents before children, and evaluated children before parents,
with calls of the host's functions in between. Both stop at the same node nevertheless, provided
that no comment has children, since those would be searched and not evaluated. An error that a
function returns is a value like any other and stops nothing.

No parser builds comments with children. So checking a script before it is evaluated and evaluating
what could be read of it complain of the same.
-/

namespace CallScript

/-! ## The nodes of a tree in order -/

namespace Node

mutual

/-- The nodes of a tree, parents before their children and children in order. -/
def preorder : Node → List Node
  | .mk kind token children => .mk kind token children :: preorderIn children

/-- The nodes of a row of trees. -/
def preorderIn : List Node → List Node
  | [] => []
  | node :: nodes => preorder node ++ preorderIn nodes

end

/-- A comment has no children. -/
def IsBare (node : Node) : Prop :=
  node.kind = .comment → node.children = []

instance : DecidablePred IsBare :=
  fun node => inferInstanceAs (Decidable (node.kind = .comment → node.children = []))

/-- No comment in the tree has children. -/
def HasBareComments (node : Node) : Prop :=
  ∀ n ∈ node.preorder, n.IsBare

instance : DecidablePred HasBareComments :=
  fun node => inferInstanceAs (Decidable (∀ n ∈ node.preorder, n.IsBare))

/-- The nodes of a row are those of its trees, one tree after the other. -/
theorem preorderIn_eq_flatMap (nodes : List Node) : preorderIn nodes = nodes.flatMap preorder := by
  induction nodes with
  | nil => rfl
  | cons node nodes ih => rw [preorderIn, List.flatMap_cons, ih]

/-- The comments of a tree are its root and those of its children. -/
theorem hasBareComments_mk_iff {kind : NodeKind} {token : Option Token} {children : List Node} :
    (Node.mk kind token children).HasBareComments ↔
      (kind = .comment → children = []) ∧ ∀ child ∈ children, child.HasBareComments := by
  rw [HasBareComments, preorder, preorderIn_eq_flatMap, List.forall_mem_cons,
    List.forall_mem_flatMap]
  rfl

end Node

/-! ## Rows and arguments -/

namespace Node

variable {σ : Type} {call : String → List Value → σ → Value × σ}

section Arguments

variable {node : Node} {nodes : List Node} {s s' : σ}

/-- Behind an argument without a value none is evaluated. -/
theorem evalArguments_cons_of_error {message : String} (h : node.eval call s = (.error message, s')) :
    evalArguments call (node :: nodes) s = (.error message, s') := by
  rw [evalArguments, h]

/-- Behind an argument with a value the others are evaluated. -/
theorem evalArguments_cons_of_ok {value : Value} (h : node.eval call s = (.ok value, s')) :
    evalArguments call (node :: nodes) s =
      ((evalArguments call nodes s').1.map (value :: ·), (evalArguments call nodes s').2) := by
  rw [evalArguments, h]
  dsimp only
  rcases evalArguments call nodes s' with ⟨message | values, s''⟩
  · rfl
  · rfl

end Arguments

/-- A row has the last of the values that its trees have as arguments. -/
theorem evalRow_eq (last : Value) (nodes : List Node) (s : σ) :
    evalRow call last nodes s =
      ((evalArguments call nodes s).1.map (·.getLastD last), (evalArguments call nodes s).2) := by
  induction nodes generalizing last s with
  | nil => rfl
  | cons node nodes ih =>
    rw [evalRow]
    rcases hrun : eval call node s with ⟨message | value, s'⟩
    · rw [evalArguments_cons_of_error hrun]
      rfl
    · rw [evalArguments_cons_of_ok hrun]
      dsimp only
      rw [ih value s']
      rcases evalArguments call nodes s' with ⟨message | values, s''⟩
      · rfl
      · simp only [Except.map, List.getLastD_cons]

/-- A row of one tree is evaluated as that tree. -/
theorem evalRow_singleton (node : Node) (result : Value) (s : σ) :
    evalRow call result [node] s = node.eval call s := by
  rw [evalRow]
  rcases eval call node s with ⟨message | value, t⟩
  · rfl
  · rfl

/-- An argument is the row of its children, and its own value if it has none. -/
theorem eval_argument (token : Option Token) (children : List Node) (s : σ) :
    (Node.mk .argument token children).eval call s =
      evalRow call (Node.mk .argument token []).value children s := by
  rw [eval]
  cases children with
  | nil => rfl
  | cons child children => rfl

section Calls

variable {token : Option Token} {children : List Node} {s s' : σ}

/-- A call whose arguments have no values is not made. -/
theorem eval_call_of_error {message : String}
    (h : evalArguments call children s = (.error message, s')) :
    (Node.mk .call token children).eval call s = (.error message, s') := by
  rw [eval, h]

/-- A call is made with the values of its arguments. -/
theorem eval_call_of_ok {arguments : List Value}
    (h : evalArguments call children s = (.ok arguments, s')) {name : String}
    (hname : (Node.mk .call token children).value = .funcName name) :
    (Node.mk .call token children).eval call s =
      (.ok (call name arguments s').1, (call name arguments s').2) := by
  have hroot : (Node.mk .call token []).value = .funcName name := hname
  simp only [eval, h, hroot]

/-- A call that names no function is not made. -/
theorem eval_call_of_ne {arguments : List Value}
    (h : evalArguments call children s = (.ok arguments, s'))
    (hname : ∀ name, (Node.mk .call token children).value ≠ .funcName name) :
    (Node.mk .call token children).eval call s = (.ok .nil, s') := by
  simp only [eval, h]
  split
  · next name hroot => exact absurd hroot (hname name)
  · rfl

end Calls

end Node

/-! ## Evaluation stops at the first error node -/

namespace Node

variable {σ α β : Type}

/-- A result that is the message of the given error node, or a value if there is none. -/
def StopsAt (result : Except String α) : Option Node → Prop
  | some e => result = .error e.value.render
  | none => ∃ v, result = .ok v

/-- A result is one of the two. -/
theorem StopsAt.cases {result : Except String α} {first : Option Node} (h : StopsAt result first) :
    (∃ e, first = some e ∧ result = .error e.value.render) ∨
      first = none ∧ ∃ v, result = .ok v := by
  cases first with
  | some e => exact .inl ⟨e, rfl, h⟩
  | none => exact .inr ⟨rfl, h⟩

/-- Making something else of a value does not move the error. -/
theorem StopsAt.map {result : Except String α} {first : Option Node} (h : StopsAt result first)
    (f : α → β) : StopsAt (result.map f) first := by
  obtain ⟨e, rfl, rfl⟩ | ⟨rfl, v, rfl⟩ := h.cases
  · rfl
  · exact ⟨f v, rfl⟩

mutual

/-- The evaluation of a tree stops at its first error node. -/
theorem eval_stopsAt (call : String → List Value → σ → Value × σ) (node : Node)
    (h : node.HasBareComments) (s : σ) : StopsAt (node.eval call s).1 node.findError? := by
  obtain ⟨kind, token, children⟩ := node
  obtain ⟨hcomment, hchildren⟩ := hasBareComments_mk_iff.mp h
  have hrow := evalArguments_stopsAt call children hchildren s
  cases kind with
  | error =>
    rw [eval, findError?, if_pos rfl]
    rfl
  | comment =>
    -- children of a comment would be searched but not evaluated
    rw [eval, findError?_of_ne (by decide), hcomment rfl]
    exact ⟨_, rfl⟩
  | call =>
    rw [findError?_of_ne (by decide)]
    rcases hrun : evalArguments call children s with ⟨result, s'⟩
    rw [hrun] at hrow
    obtain ⟨e, hfirst, rfl⟩ | ⟨hfirst, values, rfl⟩ := hrow.cases
    · rw [hfirst, eval_call_of_error hrun]
      rfl
    · rw [hfirst]
      by_cases hname : ∃ name, (Node.mk .call token children).value = .funcName name
      · obtain ⟨name, hname⟩ := hname
        rw [eval_call_of_ok hrun hname]
        exact ⟨_, rfl⟩
      · rw [eval_call_of_ne hrun (not_exists.mp hname)]
        exact ⟨_, rfl⟩
  | argument =>
    rw [eval_argument, evalRow_eq, findError?_of_ne (by decide)]
    exact hrow.map _
  | statement =>
    rw [eval, evalRow_eq, findError?_of_ne (by decide)]
    exact hrow.map _
  | script =>
    rw [eval, evalRow_eq, findError?_of_ne (by decide)]
    exact hrow.map _

/-- The evaluation of arguments stops at their first error node. -/
theorem evalArguments_stopsAt (call : String → List Value → σ → Value × σ) (nodes : List Node)
    (h : ∀ node ∈ nodes, node.HasBareComments) (s : σ) :
    StopsAt (evalArguments call nodes s).1 (findErrorIn? nodes) := by
  match nodes with
  | [] => exact ⟨[], rfl⟩
  | node :: nodes =>
    obtain ⟨hnode, hnodes⟩ := List.forall_mem_cons.mp h
    have hfirst := eval_stopsAt call node hnode s
    rw [findErrorIn?]
    rcases hrun : eval call node s with ⟨result, s'⟩
    rw [hrun] at hfirst
    obtain ⟨e, herror, rfl⟩ | ⟨herror, v, rfl⟩ := hfirst.cases
    · rw [herror, evalArguments_cons_of_error hrun]
      rfl
    · rw [herror, Option.none_or, evalArguments_cons_of_ok hrun]
      exact (evalArguments_stopsAt call nodes hnodes s').map _

end

end Node

/-! ## Trees that a parser builds -/

/-- What a parser builds of tokens: single tokens, calls, calls as arguments, and scripts. -/
inductive Node.Composed : Node → Prop where
  | leaf (kind : NodeKind) (token : Token) : Composed (.leaf kind token)
  | call (name : Token) {arguments : List Node} (parts : ∀ a ∈ arguments, Composed a) :
      Composed (.mk .call (some name) arguments)
  | nested {call : Node} (part : Composed call) : Composed (.nested call)
  | script {statements : List Node} (parts : ∀ s ∈ statements, Composed s) :
      Composed (.script statements)

/-- None of it is a comment with children. -/
theorem Node.Composed.hasBareComments {node : Node} (h : node.Composed) : node.HasBareComments := by
  induction h with
  | leaf kind token => exact hasBareComments_mk_iff.mpr ⟨fun _ => rfl, nofun⟩
  | call name parts ih => exact hasBareComments_mk_iff.mpr ⟨nofun, ih⟩
  | nested part ih => exact hasBareComments_mk_iff.mpr ⟨nofun, List.forall_mem_singleton.mpr ih⟩
  | script parts ih => exact hasBareComments_mk_iff.mpr ⟨nofun, ih⟩

/-- The arguments read so far are composed. -/
def ComposedCalls (calls : List OpenCall) : Prop :=
  ∀ call ∈ calls, ∀ a ∈ call.arguments, a.Composed

/-- An error node is a single token. -/
theorem composed_errorNode (token : Token) (expected : String) :
    (errorNode token expected).Composed :=
  .leaf _ _

namespace ComposedCalls

variable {call : OpenCall} {calls : List OpenCall}

/-- One more argument. -/
theorem push (h : ComposedCalls (call :: calls)) {argument : Node} (ha : argument.Composed) :
    ComposedCalls (call.push argument :: calls) := by
  obtain ⟨hcall, hcalls⟩ := List.forall_mem_cons.mp h
  refine List.forall_mem_cons.mpr ⟨?_, hcalls⟩
  exact List.forall_mem_append.mpr ⟨hcall, List.forall_mem_singleton.mpr ha⟩

/-- The innermost call. -/
theorem node (h : ComposedCalls (call :: calls)) : call.node.Composed :=
  .call _ (h call List.mem_cons_self)

/-- The calls around it. -/
theorem tail (h : ComposedCalls (call :: calls)) : ComposedCalls calls :=
  (List.forall_mem_cons.mp h).2

/-- Closing the calls around a call composes them. -/
theorem closeAround (h : ComposedCalls calls) {inner : Node} (hinner : inner.Composed) :
    (CallScript.closeAround inner calls).Composed := by
  induction calls generalizing inner with
  | nil => exact hinner
  | cons outer calls ih =>
    have hpush := h.push (.nested hinner)
    exact ih h.tail hpush.node

/-- Closing open calls with a last argument composes them. -/
theorem closeWith (h : ComposedCalls calls) {last : Node} (hlast : last.Composed) :
    (CallScript.closeWith last calls).Composed := by
  cases calls with
  | nil => exact hlast
  | cons call calls =>
    have hpush := h.push hlast
    exact closeAround h.tail hpush.node

end ComposedCalls

/-- A step leads to a state of the given kind, or stops with a composed tree. -/
def Step.Composes {σ : Type} (P : σ → Prop) : Step σ → Prop
  | .more state => P state
  | .stop node _ => node.Composed

/-- If every step composes, and so does closing early, then reading does. -/
theorem composed_readTree {σ : Type} {P : σ → Prop} {step : σ → Token → Step σ} {close : σ → Node}
    (hstep : ∀ state token, P state → (step state token).Composes P)
    (hclose : ∀ state, P state → (close state).Composed) {state : σ} (h : P state)
    (p : Parser) (tokens : List (Token × TokenStream)) :
    (readTree step close state p tokens).node.Composed := by
  induction tokens generalizing state p with
  | nil => exact hclose state h
  | cons first rest ih =>
    obtain ⟨token, stream⟩ := first
    have hnext := hstep state token h
    rw [readTree]
    cases hresult : step state token with
    | stop node failed =>
      rw [hresult] at hnext
      exact hnext
    | more state' =>
      rw [hresult] at hnext
      exact ih hnext _

namespace CallState

/-- The arguments of all open calls are composed. -/
def Composed (state : CallState) : Prop :=
  ComposedCalls state.calls

theorem composes_afterArgument (failed : Bool) {argument : Node} (ha : argument.Composed)
    {call : OpenCall} {outer : List OpenCall} (h : ComposedCalls (call :: outer)) :
    (afterArgument failed argument call outer).Composes Composed := by
  unfold afterArgument
  split
  · exact h.closeWith ha
  · exact h.push ha

theorem composes_afterCall (failed : Bool) {call : OpenCall} {outer : List OpenCall}
    (h : ComposedCalls (call :: outer)) : (afterCall failed call outer).Composes Composed := by
  cases outer with
  | nil => exact h.node
  | cons around outer => exact composes_afterArgument failed (.nested h.node) h.tail

theorem composes_refuse (token : Token) (expected : String) {calls : List OpenCall}
    (h : ComposedCalls calls) : (refuse token expected calls).Composes Composed :=
  h.closeWith (composed_errorNode token expected)

theorem composes_beginArgument (failed : Bool) (token : Token) {call : OpenCall}
    {outer : List OpenCall} (h : ComposedCalls (call :: outer)) :
    (beginArgument failed token call outer).Composes Composed := by
  unfold beginArgument
  split
  · exact composes_afterArgument failed (.leaf _ _) h
  · exact composes_afterArgument failed (.leaf _ _) h
  · exact h
  · exact composes_refuse token _ h

/-- One step of reading a call. -/
theorem composes_step (failed : Bool) (state : CallState) (token : Token) (h : state.Composed) :
    (state.step failed token).Composes Composed := by
  cases state with
  | named name outer =>
    simp only [step]
    split
    · exact List.forall_mem_cons.mpr ⟨fun _ ha => absurd ha List.not_mem_nil, h⟩
    · exact composes_refuse token _ h
  | opened call outer =>
    simp only [step]
    split
    · exact composes_afterCall failed h
    · exact composes_beginArgument failed token h
  | divided call outer => exact composes_beginArgument failed token h
  | filled call outer =>
    simp only [step]
    split
    · exact composes_afterCall failed h
    · split
      · exact h
      · exact composes_refuse token _ h

/-- Closing a call early. -/
theorem composed_close (state : CallState) (h : state.Composed) : state.close.Composed := by
  cases state with
  | named name outer => exact ComposedCalls.closeAround h (.call name nofun)
  | opened call outer => exact ComposedCalls.closeAround h.tail h.node
  | divided call outer => exact ComposedCalls.closeAround h.tail h.node
  | filled call outer => exact ComposedCalls.closeAround h.tail h.node

end CallState

namespace ScriptState

/-- The statements and the open calls are composed. -/
def Composed (state : ScriptState) : Prop :=
  (∀ statement ∈ state.statements, statement.Composed) ∧
    match state.phase with
    | .inCall call => call.Composed
    | _ => True

variable {statements : List Node}

theorem composed_script_concat (h : ∀ statement ∈ statements, statement.Composed) {last : Node}
    (hlast : last.Composed) : (Node.script (statements ++ [last])).Composed :=
  .script (List.forall_mem_append.mpr ⟨h, List.forall_mem_singleton.mpr hlast⟩)

theorem composes_afterStatement (failed : Bool) (h : ∀ statement ∈ statements, statement.Composed)
    {statement : Node} (hstatement : statement.Composed) :
    (afterStatement failed statements statement).Composes Composed := by
  unfold afterStatement
  split
  · exact composed_script_concat h hstatement
  · exact ⟨List.forall_mem_append.mpr ⟨h, List.forall_mem_singleton.mpr hstatement⟩, trivial⟩

theorem composes_refuse (token : Token) (expected : String)
    (h : ∀ statement ∈ statements, statement.Composed) :
    (refuse token expected statements).Composes Composed :=
  composed_script_concat h (composed_errorNode token expected)

/-- One step of reading a script. -/
theorem composes_step (failed : Bool) (state : ScriptState) (token : Token) (h : state.Composed) :
    (state.step failed token).Composes Composed := by
  obtain ⟨statements, phase⟩ := state
  obtain ⟨hstatements, hphase⟩ := h
  cases phase with
  | lineStart =>
    simp only [step]
    split
    · exact .script hstatements
    · exact ⟨hstatements, trivial⟩
    · exact composes_afterStatement failed hstatements (.leaf _ _)
    · exact ⟨hstatements, fun _ h => absurd h List.not_mem_nil⟩
    · exact composes_refuse token _ hstatements
  | inCall call =>
    have hcall := call.composes_step failed token hphase
    simp only [step]
    cases hstep : call.step failed token with
    | more call' =>
      rw [hstep] at hcall
      exact ⟨hstatements, hcall⟩
    | stop tree failed' =>
      rw [hstep] at hcall
      exact composes_afterStatement failed' hstatements hcall
  | lineEnd =>
    simp only [step]
    split
    · exact ⟨hstatements, trivial⟩
    · exact .script hstatements
    · exact composes_refuse token _ hstatements

/-- Closing a script early. -/
theorem composed_close (state : ScriptState) (h : state.Composed) : state.close.Composed := by
  obtain ⟨statements, phase⟩ := state
  obtain ⟨hstatements, hphase⟩ := h
  cases phase with
  | lineStart => exact .script hstatements
  | inCall call => exact composed_script_concat hstatements (call.composed_close hphase)
  | lineEnd => exact .script hstatements

end ScriptState

namespace Parser

/-- Reading a script composes its tree, whatever the parser has read before. -/
theorem composed_script (p : Parser) : p.script.node.Composed := by
  have hstart : ScriptState.start.Composed := ⟨fun _ h => absurd h List.not_mem_nil, trivial⟩
  exact composed_readTree (ScriptState.composes_step p.failed) ScriptState.composed_close hstart p _

/-- Reading a call behind its name composes its tree. -/
theorem composed_restOfCall (name : Token) (p : Parser) : (p.restOfCall name).node.Composed := by
  have hnamed : (CallState.named name []).Composed := fun _ h => absurd h List.not_mem_nil
  exact composed_readTree (CallState.composes_step p.failed) CallState.composed_close hnamed p _

/-- Reading a call composes its tree. -/
theorem composed_call (p : Parser) : p.call.node.Composed := by
  unfold call
  dsimp only
  split
  · exact composed_restOfCall _ _
  · exact composed_errorNode _ _

/-- Reading an argument composes its tree. -/
theorem composed_argument (p : Parser) : p.argument.node.Composed := by
  unfold argument
  dsimp only
  split
  · exact .leaf _ _
  · exact .leaf _ _
  · split
    · exact composed_restOfCall _ _
    · exact .nested (composed_restOfCall _ _)
  · exact composed_errorNode _ _

/-- Reading a statement composes its tree. -/
theorem composed_statement (p : Parser) : p.statement.node.Composed := by
  unfold statement
  dsimp only
  split
  · exact .leaf _ _
  · exact composed_restOfCall _ _
  · exact composed_errorNode _ _

end Parser

/-! ## Checking and evaluating -/

namespace Session

variable {F : Type}

/-- A tree is reported as malformed with the message of its first error node, or not at all. -/
theorem tryEval_eq_malformed_iff (apply : F → List Value → Session F → Value × Session F)
    {node : Node} (h : node.HasBareComments) (s : Session F) (message : String) :
    (tryEval apply node s).1 = .error (.malformed message) ↔
      ∃ e, node.findError? = some e ∧ e.value.render = message := by
  have hstops := node.eval_stopsAt (call apply) h s
  rcases hrun : node.eval (call apply) s with ⟨result, s'⟩
  rw [hrun] at hstops
  obtain ⟨e, hfirst, rfl⟩ | ⟨hfirst, v, rfl⟩ := hstops.cases
  · rw [tryEval, hrun, hfirst]
    simp
  · -- an error as the value is the host's, and any other value is no failure
    have hvalue : (tryEval apply node s).1 ≠ .error (.malformed message) := by
      rw [tryEval, hrun]
      cases v <;> exact nofun
    simp [hfirst, hvalue]

/-- An error node gives its message as an error value. -/
theorem eval_of_findError? (apply : F → List Value → Session F → Value × Session F)
    {node : Node} (h : node.HasBareComments) (s : Session F) {e : Node}
    (he : node.findError? = some e) : (eval apply node s).1 = .error e.value.render := by
  have hstops := node.eval_stopsAt (call apply) h s
  rw [he] at hstops
  rw [eval]
  rcases hrun : node.eval (call apply) s with ⟨result, s'⟩
  rw [hrun] at hstops
  obtain rfl : result = .error e.value.render := hstops
  rfl

end Session

/-- Checking a script fails with the message of its first error node. -/
theorem exists_parseChecked_eq_error_iff (source : String) (text : List Char) (message : String) :
    (∃ position, parseChecked source text = .error ⟨position, message⟩) ↔
      ∃ e, (parseScript source text).findError? = some e ∧ e.value.render = message := by
  rw [parseChecked, Parsed.checked, parseScript]
  cases (Parser.ofText source text).script.node.findError? with
  | none => simp
  | some e => simp

/-- Whatever the host's functions do, an evaluation reports a malformed tree exactly if it has an
error node, and then with the message of the first one; as a value it is that message. This holds
of trees without children below comments, which all parsers build. So evaluating what was read of a
text reports exactly what checking the text does. -/
theorem evaluation_reports_first_error {F : Type}
    (apply : F → List Value → Session F → Value × Session F) (s : Session F) :
    (∀ node : Node, node.HasBareComments →
      (∀ message, (Session.tryEval apply node s).1 = .error (.malformed message) ↔
        ∃ e, node.findError? = some e ∧ e.value.render = message) ∧
      ∀ e, node.findError? = some e → (Session.eval apply node s).1 = .error e.value.render) ∧
    (∀ p : Parser, ∀ parsed ∈ [p.script, p.statement, p.call, p.argument],
      parsed.node.HasBareComments) ∧
    ∀ source text message,
      (∃ position, parseChecked source text = .error ⟨position, message⟩) ↔
        (Session.tryEval apply (parseScript source text) s).1 = .error (.malformed message) := by
  refine ⟨fun node h => ⟨Session.tryEval_eq_malformed_iff apply h s,
    fun e he => Session.eval_of_findError? apply h s he⟩, ?_, ?_⟩
  · intro p parsed hparsed
    simp only [List.mem_cons, List.not_mem_nil, or_false] at hparsed
    rcases hparsed with rfl | rfl | rfl | rfl
    · exact p.composed_script.hasBareComments
    · exact p.composed_statement.hasBareComments
    · exact p.composed_call.hasBareComments
    · exact p.composed_argument.hasBareComments
  · intro source text message
    have hbare : (parseScript source text).HasBareComments :=
      (Parser.ofText source text).composed_script.hasBareComments
    rw [exists_parseChecked_eq_error_iff, Session.tryEval_eq_malformed_iff apply hbare]

/-- A tree with a comment, a call, and a call as an argument that could not be read. -/
def Node.unreadable : Node :=
  .script [.leaf .comment ⟨Position.start "t", .comment, .comment "first"⟩,
    .mk .call (some ⟨Position.start "t", .func, .funcName "f"⟩) [],
    .mk .call (some ⟨Position.start "t", .func, .funcName "f"⟩)
      [.nested (.leaf .error (Token.failure (Position.start "t") "no call"))]]

/-- The tree is reported even if all functions of the host return errors. -/
theorem evaluation_reports_unreadable :
    Node.unreadable.HasBareComments ∧
    (Session.tryEval (fun () _ s => (.error "host", s)) Node.unreadable
      { env := Environment.register {} "f" () }).1 = .error (.malformed "t:1:1: no call") ∧
    (Session.eval (fun () _ s => (.error "host", s)) Node.unreadable
      { env := Environment.register {} "f" () }).1 = .error "t:1:1: no call" := by
  have hbare : Node.unreadable.HasBareComments := by decide
  have hfirst : Node.unreadable.findError? =
      some (.leaf .error (Token.failure (Position.start "t") "no call")) := rfl
  obtain ⟨htry, heval⟩ := (evaluation_reports_first_error (fun () _ s => (.error "host", s))
    { env := Environment.register {} "f" () }).1 Node.unreadable hbare
  exact ⟨hbare, (htry _).mpr ⟨_, hfirst, rfl⟩, heval _ hfirst⟩

end CallScript
