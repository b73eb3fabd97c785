import CallScript.Proofs.EvaluationErrors
import Mathlib.Data.List.Forall2

/-!
# The order of calls

Evaluating a tree calls the functions of its call nodes, children before parents and left to right,
up to the first error node. The calls are watched by recording them in the state that the
evaluation threads through: an evaluation does not look at its state, so it takes the same way
whether its calls are recorded or not.

Nodes are told apart by their places, which are counted from the root, parents before children. A
call is made exactly if the nodes of its subtree end before the place of the first error node.
-/

namespace CallScript

/-! ## Places -/

/-- A node and its place in a tree. -/
structure Site where
  place : Nat
  node : Node

/-- The place behind the subtree of a node. -/
def Site.stop (site : Site) : Nat :=
  site.place + site.node.preorder.length

namespace Node

mutual

/-- The nodes of a tree whose root has the given place, children before their parents. -/
def postorder (place : Nat) : Node → List Site
  | .mk kind token children =>
      postorderIn (place + 1) children ++ [⟨place, .mk kind token children⟩]

/-- The nodes of a row of trees of which the first has the given place. -/
def postorderIn (place : Nat) : List Node → List Site
  | [] => []
  | node :: nodes => postorder place node ++ postorderIn (place + node.preorder.length) nodes

end

mutual

/-- The sites of a tree, with their subtrees, lie in the tree. -/
theorem exists_preorder_eq_of_mem_postorder {place : Nat} {node : Node} {site : Site}
    (h : site ∈ node.postorder place) :
    ∃ before after, node.preorder = before ++ site.node.preorder ++ after ∧
      place + before.length = site.place := by
  obtain ⟨kind, token, children⟩ := node
  rw [postorder] at h
  rcases List.mem_append.mp h with h | h
  · obtain ⟨before, after, heq, hplace⟩ := exists_preorderIn_eq_of_mem_postorderIn h
    refine ⟨.mk kind token children :: before, after, ?_, ?_⟩
    · rw [preorder, heq]
      rfl
    · rw [List.length_cons]
      omega
  · obtain rfl := List.mem_singleton.mp h
    exact ⟨[], [], by simp, rfl⟩

/-- The sites of a row, with their subtrees, lie in the row. -/
theorem exists_preorderIn_eq_of_mem_postorderIn {place : Nat} {nodes : List Node} {site : Site}
    (h : site ∈ postorderIn place nodes) :
    ∃ before after, preorderIn nodes = before ++ site.node.preorder ++ after ∧
      place + before.length = site.place := by
  match nodes with
  | [] => cases h
  | node :: nodes =>
    rw [postorderIn] at h
    rw [preorderIn]
    rcases List.mem_append.mp h with h | h
    · obtain ⟨before, after, heq, hplace⟩ := exists_preorder_eq_of_mem_postorder h
      exact ⟨before, after ++ preorderIn nodes, by simp [heq], hplace⟩
    · obtain ⟨before, after, heq, hplace⟩ := exists_preorderIn_eq_of_mem_postorderIn h
      refine ⟨node.preorder ++ before, after, by simp [heq], ?_⟩
      rw [List.length_append]
      omega

end

mutual

/-- Every place of a tree occurs once. -/
theorem perm_places_postorder (place : Nat) (node : Node) :
    ((node.postorder place).map Site.place).Perm (List.range' place node.preorder.length) := by
  obtain ⟨kind, token, children⟩ := node
  have hchildren := perm_places_postorderIn (place + 1) children
  rw [postorder, preorder, List.map_append, List.length_cons, List.range'_succ]
  exact (List.perm_append_singleton _ _).trans (hchildren.cons place)

/-- Every place of a row occurs once. -/
theorem perm_places_postorderIn (place : Nat) (nodes : List Node) :
    ((postorderIn place nodes).map Site.place).Perm
      (List.range' place (preorderIn nodes).length) := by
  match nodes with
  | [] => exact .refl _
  | node :: nodes =>
    have hnode := perm_places_postorder place node
    have hnodes := perm_places_postorderIn (place + node.preorder.length) nodes
    rw [postorderIn, preorderIn, List.map_append, List.length_append, ← List.range'_append_1]
    exact hnode.append hnodes

end

/-! ## Calls before the first error node -/

/-- Whether a node is a call that says which function. -/
def isNamedCall (node : Node) : Bool :=
  match node.kind, node.value with
  | .call, .funcName _ => true
  | _, _ => false

/-- A call with a name is a call, and has the name as its value. -/
theorem isNamedCall_iff {node : Node} :
    node.isNamedCall = true ↔ node.kind = .call ∧ ∃ name, node.value = .funcName name := by
  unfold isNamedCall
  split
  · next name hkind hvalue => simp [hkind, hvalue]
  · next hother =>
    simp only [Bool.false_eq_true, false_iff]
    rintro ⟨hkind, name, hvalue⟩
    exact hother name hkind hvalue

/-- The sites of calls whose subtrees end before a place. -/
def callsBefore (limit : Nat) (sites : List Site) : List Site :=
  sites.filter fun site => site.node.isNamedCall && decide (site.stop ≤ limit)

/-- The place of the first error node, or behind the tree if it has none. -/
def errorPlace (node : Node) : Nat :=
  node.preorder.findIdx isError

/-- The calls of a tree that end before its first error node, children before their parents. -/
def callSites (node : Node) : List Site :=
  callsBefore node.errorPlace (node.postorder 0)

/-- The limit is the place of the first error node of a row that begins at the given place; if the
row holds none, then it ends before the limit. -/
def IsLimit (limit place : Nat) (nodes : List Node) : Prop :=
  place + nodes.findIdx isError = min limit (place + nodes.length)

/-- The first error node of a whole tree is a limit. -/
theorem isLimit_errorPlace (node : Node) : IsLimit node.errorPlace 0 node.preorder := by
  have hle : node.preorder.findIdx isError ≤ node.preorder.length := List.findIdx_le_length
  rw [IsLimit, errorPlace]
  omega

/-- The limit of a node that is no error is the limit of the nodes below it. -/
theorem IsLimit.tail {limit place : Nat} {node : Node} {nodes : List Node}
    (h : IsLimit limit place (node :: nodes)) (hnode : node.isError = false) :
    IsLimit limit (place + 1) nodes := by
  rw [IsLimit, List.findIdx_cons, hnode, List.length_cons] at h
  rw [IsLimit]
  simp only [cond_false] at h
  omega

/-- An error node is a limit itself. -/
theorem IsLimit.lt_succ {limit place : Nat} {node : Node} {nodes : List Node}
    (h : IsLimit limit place (node :: nodes)) (hnode : node.isError = true) :
    limit < place + 1 := by
  rw [IsLimit, List.findIdx_cons, hnode, List.length_cons] at h
  simp only [cond_true] at h
  omega

/-- The limit of two rows is the limit of the first, and of the second if the first holds no error
node. -/
theorem IsLimit.append {limit place : Nat} {nodes more : List Node}
    (h : IsLimit limit place (nodes ++ more)) :
    IsLimit limit place nodes ∧ (nodes.findIdx isError = nodes.length →
      IsLimit limit (place + nodes.length) more) := by
  have hle : nodes.findIdx isError ≤ nodes.length := List.findIdx_le_length
  rw [IsLimit, List.findIdx_append, List.length_append] at h
  rw [IsLimit, IsLimit]
  split at h
  · omega
  · omega

/-- Without an error node the row ends before the limit. -/
theorem IsLimit.le {limit place : Nat} {nodes : List Node} (h : IsLimit limit place nodes)
    (hnodes : nodes.findIdx isError = nodes.length) : place + nodes.length ≤ limit := by
  rw [IsLimit, hnodes] at h
  omega

/-- With an error node the row ends behind the limit. -/
theorem IsLimit.lt {limit place : Nat} {nodes : List Node} (h : IsLimit limit place nodes)
    (hnodes : nodes.findIdx isError < nodes.length) : limit < place + nodes.length := by
  rw [IsLimit] at h
  omega

mutual

/-- The search for the first error node looks at the nodes in order. -/
theorem findError?_eq_find? (node : Node) : node.findError? = node.preorder.find? isError := by
  obtain ⟨kind, token, children⟩ := node
  rw [findError?, preorder, List.find?_cons, findErrorIn?_eq_find? children]
  by_cases hkind : kind = .error
  · rw [if_pos hkind, hkind]
    rfl
  · have hnode : (Node.mk kind token children).isError = false := by
      simpa [isError, Node.kind] using hkind
    rw [if_neg hkind, hnode]

/-- The search in a row looks at the nodes in order. -/
theorem findErrorIn?_eq_find? (nodes : List Node) :
    findErrorIn? nodes = (preorderIn nodes).find? isError := by
  match nodes with
  | [] => rfl
  | node :: nodes =>
    rw [findErrorIn?, preorderIn, List.find?_append, findError?_eq_find? node,
      findErrorIn?_eq_find? nodes]

end

/-- A search without result has gone through all nodes. -/
theorem findIdx_eq_length_of_find? {nodes : List Node} (h : nodes.find? isError = none) :
    nodes.findIdx isError = nodes.length :=
  List.findIdx_eq_length.mpr fun n hn => by simpa using List.find?_eq_none.mp h n hn

/-- A search with a result has not. -/
theorem findIdx_lt_length_of_find? {nodes : List Node} {e : Node}
    (h : nodes.find? isError = some e) : nodes.findIdx isError < nodes.length :=
  List.findIdx_lt_length.mpr ⟨e, List.mem_of_find?_eq_some h, List.find?_some h⟩

/-- Behind the limit no calls count. -/
theorem callsBefore_postorderIn {limit place : Nat} (h : limit < place) (nodes : List Node) :
    callsBefore limit (postorderIn place nodes) = [] := by
  refine List.filter_eq_nil_iff.mpr fun site hsite => ?_
  obtain ⟨before, after, -, hplace⟩ := exists_preorderIn_eq_of_mem_postorderIn hsite
  have hstop : limit < site.stop := by
    rw [Site.stop]
    omega
  simp [hstop]

end Node

/-! ## Recording calls -/

/-- A call that was made: the function and its arguments, its result, and the states before and
behind it. -/
structure Invocation (σ : Type) where
  name : String
  arguments : List Value
  before : σ
  value : Value
  after : σ

variable {σ : Type}

/-- A way of calling functions that keeps a record of the calls. -/
def recorded (call : String → List Value → σ → Value × σ) (name : String) (arguments : List Value)
    (s : σ × List (Invocation σ)) : Value × (σ × List (Invocation σ)) :=
  let (value, after) := call name arguments s.1
  (value, after, s.2 ++ [⟨name, arguments, s.1, value, after⟩])

/-- Each call is made in the state that the one before it left. -/
def Chained (call : String → List Value → σ → Value × σ) (s : σ) :
    List (Invocation σ) → σ → Prop
  | [], s' => s' = s
  | invocation :: trace, s' =>
      invocation.before = s ∧
      call invocation.name invocation.arguments s = (invocation.value, invocation.after) ∧
      Chained call invocation.after trace s'

/-- Calls may be made behind others. -/
theorem Chained.append {call : String → List Value → σ → Value × σ} {s t u : σ}
    {trace more : List (Invocation σ)} (h : Chained call s trace t) (h' : Chained call t more u) :
    Chained call s (trace ++ more) u := by
  induction trace generalizing s with
  | nil =>
    obtain rfl : t = s := h
    exact h'
  | cons invocation trace ih =>
    obtain ⟨hbefore, hcall, hrest⟩ := h
    exact ⟨hbefore, hcall, ih hrest⟩

namespace Node

mutual

/-- What a node at a place stands for, where `results` says what the calls at all places gave: a
call for its result, a leaf for the value of its token, and any other node for its last child. -/
def outcome (results : Nat → Value) (place : Nat) : Node → Value
  | .mk kind token children =>
      let node := Node.mk kind token []
      match kind with
      | .call => if node.isNamedCall then results place else .nil
      | .argument => (outcomes results (place + 1) children).getLastD node.value
      | .statement | .script => (outcomes results (place + 1) children).getLastD .nil
      | .comment | .error => node.value

/-- What the nodes of a row stand for. -/
def outcomes (results : Nat → Value) (place : Nat) : List Node → List Value
  | [] => []
  | node :: nodes =>
      outcome results place node :: outcomes results (place + node.preorder.length) nodes

end

end Node

/-- The results at the sites are those of the calls. -/
def Agrees (results : Nat → Value) (sites : List Site) (trace : List (Invocation σ)) : Prop :=
  (sites.map fun site => results site.place) = trace.map Invocation.value

/-- The call of a site: the function that the node names, with one argument for each child. -/
structure CallOf (results : Nat → Value) (site : Site) (invocation : Invocation σ) : Prop where
  name_eq : site.node.value = .funcName invocation.name
  arguments_eq : invocation.arguments = Node.outcomes results (site.place + 1) site.node.children
  value_eq : invocation.value = results site.place

/-- The calls of the sites are made one after the other, and lead from one state to another. -/
structure Performs (call : String → List Value → σ → Value × σ) (sites : List Site) (s : σ)
    (trace : List (Invocation σ)) (s' : σ) : Prop where
  chained : Chained call s trace s'
  length_eq : sites.length = trace.length
  calls : ∀ results, Agrees results sites trace → List.Forall₂ (CallOf results) sites trace

/-- Results agree with two rows of calls if they agree with both. -/
theorem agrees_append {results : Nat → Value} {sites more : List Site}
    {trace rest : List (Invocation σ)} (hlength : sites.length = trace.length) :
    Agrees results (sites ++ more) (trace ++ rest) ↔
      Agrees results sites trace ∧ Agrees results more rest := by
  rw [Agrees, List.map_append, List.map_append]
  constructor
  · intro h
    exact List.append_inj h (by simp [hlength])
  · intro h
    rw [h.1, h.2]

namespace Performs

variable {call : String → List Value → σ → Value × σ}

/-- No calls. -/
theorem nil (s : σ) : Performs call [] s [] s :=
  ⟨rfl, rfl, fun _ _ => .nil⟩

/-- Calls behind others. -/
theorem append {sites more : List Site} {s t u : σ} {trace rest : List (Invocation σ)}
    (h : Performs call sites s trace t) (h' : Performs call more t rest u) :
    Performs call (sites ++ more) s (trace ++ rest) u where
  chained := h.chained.append h'.chained
  length_eq := by rw [List.length_append, List.length_append, h.length_eq, h'.length_eq]
  calls := by
    intro results hagrees
    obtain ⟨hfirst, hrest⟩ := (agrees_append h.length_eq).mp hagrees
    exact List.rel_append (h.calls results hfirst) (h'.calls results hrest)

/-- One call behind those of its arguments. -/
theorem concat {sites : List Site} {s t : σ} {trace : List (Invocation σ)}
    (h : Performs call sites s trace t) (site : Site) {name : String} {arguments : List Value}
    (hname : site.node.value = .funcName name)
    (harguments : ∀ results, Agrees results sites trace →
      arguments = Node.outcomes results (site.place + 1) site.node.children) :
    Performs call (sites ++ [site]) s
      (trace ++ [⟨name, arguments, t, (call name arguments t).1, (call name arguments t).2⟩])
      (call name arguments t).2 where
  chained := h.chained.append ⟨rfl, rfl, rfl⟩
  length_eq := by simp [h.length_eq]
  calls := by
    intro results hagrees
    obtain ⟨hfirst, hlast⟩ := (agrees_append h.length_eq).mp hagrees
    have hvalue : results site.place = (call name arguments t).1 := by simpa [Agrees] using hlast
    exact List.rel_append (h.calls results hfirst)
      (.cons ⟨hname, harguments results hfirst, hvalue.symm⟩ .nil)

end Performs

/-! ## Evaluation makes the calls in order -/

/-- A computation makes the calls of the sites, and makes the same ones if they are recorded; if it
has a value, then the expected one. -/
structure Tracks {α : Type} (call : String → List Value → σ → Value × σ) (sites : List Site)
    (s : σ) (result : Except String α × σ)
    (recording : List (Invocation σ) → Except String α × (σ × List (Invocation σ)))
    (expected : (Nat → Value) → α) (trace : List (Invocation σ)) : Prop where
  recording_eq : ∀ before, recording before = (result.1, result.2, before ++ trace)
  performs : Performs call sites s trace result.2
  value_eq : ∀ v, result.1 = .ok v → ∀ results, Agrees results sites trace → v = expected results

/-- Making something else of the value does not change the calls. -/
theorem Tracks.map {α β : Type} {call : String → List Value → σ → Value × σ} {sites : List Site}
    {s : σ} {result : Except String α × σ}
    {recording : List (Invocation σ) → Except String α × (σ × List (Invocation σ))}
    {expected : (Nat → Value) → α} {trace : List (Invocation σ)}
    (h : Tracks call sites s result recording expected trace) (f : α → β) :
    Tracks call sites s (result.1.map f, result.2)
      (fun before => ((recording before).1.map f, (recording before).2))
      (fun results => f (expected results)) trace where
  recording_eq := fun before => by rw [h.recording_eq]
  performs := h.performs
  value_eq := by
    intro v hv results hagrees
    rcases hresult : result.1 with message | w
    · rw [hresult] at hv
      cases hv
    · rw [hresult] at hv
      rw [← h.value_eq w hresult results hagrees]
      exact (Except.ok.inj hv).symm

namespace Node

variable (call : String → List Value → σ → Value × σ) {limit place : Nat}

/-- The calls of a tree are those of its children, and its root where the root is a call before the
limit. -/
theorem callsBefore_postorder (limit place : Nat) (kind : NodeKind) (token : Option Token)
    (children : List Node) :
    callsBefore limit ((Node.mk kind token children).postorder place) =
      callsBefore limit (postorderIn (place + 1) children) ++
        callsBefore limit [⟨place, .mk kind token children⟩] := by
  rw [callsBefore, postorder, List.filter_append]
  rfl

/-- The calls of a row are those of its first tree and those of the others. -/
theorem callsBefore_cons (limit place : Nat) (node : Node) (nodes : List Node) :
    callsBefore limit (postorderIn place (node :: nodes)) =
      callsBefore limit (node.postorder place) ++
        callsBefore limit (postorderIn (place + node.preorder.length) nodes) := by
  rw [callsBefore, postorderIn, List.filter_append]
  rfl

/-- A node that is no call with a name adds no call. -/
theorem callsBefore_of_isNamedCall {node : Node} (h : node.isNamedCall = false) :
    callsBefore limit [⟨place, node⟩] = [] := by
  simp [callsBefore, h]

/-- A node with an error node in it adds no call. -/
theorem callsBefore_of_findError? {node e : Node} (hlimit : IsLimit limit place node.preorder)
    (h : node.findError? = some e) : callsBefore limit [⟨place, node⟩] = [] := by
  rw [findError?_eq_find?] at h
  have hstop : limit < Site.stop ⟨place, node⟩ := hlimit.lt (findIdx_lt_length_of_find? h)
  simp [callsBefore, hstop]

/-- A call with a name and without an error node in it adds itself. -/
theorem callsBefore_of_findError?_eq_none {node : Node} (hlimit : IsLimit limit place node.preorder)
    (h : node.findError? = none) (hnamed : node.isNamedCall = true) :
    callsBefore limit [⟨place, node⟩] = [⟨place, node⟩] := by
  rw [findError?_eq_find?] at h
  have hstop : Site.stop ⟨place, node⟩ ≤ limit := hlimit.le (findIdx_eq_length_of_find? h)
  simp [callsBefore, hnamed, hstop]

/-- Evaluating the tree at a place makes its calls up to the limit. -/
def IsTracked (limit place : Nat) (node : Node) (s : σ) : Prop :=
  ∃ trace, Tracks call (callsBefore limit (node.postorder place)) s (node.eval call s)
    (fun before => node.eval (recorded call) (s, before))
    (fun results => node.outcome results place) trace

/-- Evaluating the trees of a row as arguments makes their calls up to the limit. -/
def AreTracked (limit place : Nat) (nodes : List Node) (s : σ) : Prop :=
  ∃ trace, Tracks call (callsBefore limit (postorderIn place nodes)) s (evalArguments call nodes s)
    (fun before => evalArguments (recorded call) nodes (s, before))
    (fun results => outcomes results place nodes) trace

variable {call} {node : Node} {nodes children : List Node} {token : Option Token} {s s' : σ}

/-- Behind a tree without a value, which holds the limit, no calls are made. -/
theorem IsTracked.cons_of_error (h : IsTracked call limit place node s) {message : String}
    (hrun : node.eval call s = (.error message, s')) (hlimit : limit < place + node.preorder.length) :
    AreTracked call limit place (node :: nodes) s := by
  obtain ⟨trace, hrecording, hperforms, -⟩ := h
  rw [hrun] at hrecording hperforms
  rw [AreTracked, callsBefore_cons, callsBefore_postorderIn hlimit, List.append_nil,
    evalArguments_cons_of_error hrun]
  exact ⟨trace, fun before => evalArguments_cons_of_error (hrecording before), hperforms, nofun⟩

/-- Behind a tree with a value the calls of the others are made. -/
theorem IsTracked.cons_of_ok (h : IsTracked call limit place node s) {value : Value}
    (hrun : node.eval call s = (.ok value, s'))
    (hrest : AreTracked call limit (place + node.preorder.length) nodes s') :
    AreTracked call limit place (node :: nodes) s := by
  obtain ⟨trace, hrecording, hperforms, hvalue⟩ := h
  obtain ⟨more, hrecording', hperforms', hvalue'⟩ := hrest
  rw [hrun] at hrecording hperforms hvalue
  rw [AreTracked, callsBefore_cons, evalArguments_cons_of_ok hrun]
  refine ⟨trace ++ more, fun before => ?_, hperforms.append hperforms', ?_⟩
  · rw [evalArguments_cons_of_ok (hrecording before), hrecording', List.append_assoc]
  · intro values hvalues results hagrees
    obtain ⟨hagrees, hagrees'⟩ := (agrees_append hperforms.length_eq).mp hagrees
    rcases hrow : (evalArguments call nodes s').1 with message | others
    · rw [hrow] at hvalues
      cases hvalues
    · rw [hrow] at hvalues
      rw [outcomes, ← hvalue value rfl results hagrees, ← hvalue' others hrow results hagrees']
      exact (Except.ok.inj hvalues).symm

/-- A node that is a row of its children makes their calls. -/
theorem AreTracked.isTracked_row {kind : NodeKind} {last : Value}
    (h : AreTracked call limit (place + 1) children s)
    (hnamed : (Node.mk kind token children).isNamedCall = false)
    (heval : ∀ {τ : Type} (call : String → List Value → τ → Value × τ) (s : τ),
      (Node.mk kind token children).eval call s = evalRow call last children s)
    (houtcome : ∀ results, (Node.mk kind token children).outcome results place =
      (outcomes results (place + 1) children).getLastD last) :
    IsTracked call limit place (.mk kind token children) s := by
  obtain ⟨trace, htrace⟩ := h
  rw [IsTracked, callsBefore_postorder, callsBefore_of_isNamedCall hnamed, List.append_nil]
  simp only [heval, houtcome, evalRow_eq]
  exact ⟨trace, htrace.map _⟩

/-- A call makes the calls of its arguments, and then its own if they have values and it has a
name. -/
theorem AreTracked.isTracked_call (h : AreTracked call limit (place + 1) children s)
    (hlimit : IsLimit limit place (Node.mk .call token children).preorder)
    (hstops : StopsAt (evalArguments call children s).1 (findErrorIn? children)) :
    IsTracked call limit place (.mk .call token children) s := by
  obtain ⟨trace, hrecording, hperforms, hvalue⟩ := h
  have hfind : (Node.mk .call token children).findError? = findErrorIn? children :=
    findError?_of_ne (by decide) _ _
  rcases hrun : evalArguments call children s with ⟨result, s'⟩
  rw [hrun] at hstops hperforms hvalue hrecording
  rw [IsTracked, callsBefore_postorder]
  obtain ⟨e, herror, rfl⟩ | ⟨herror, arguments, rfl⟩ := hstops.cases
  · rw [callsBefore_of_findError? hlimit (hfind.trans herror), List.append_nil,
      eval_call_of_error hrun]
    exact ⟨trace, fun before => eval_call_of_error (hrecording before), hperforms, nofun⟩
  · cases hnamed : (Node.mk .call token children).isNamedCall with
    | true =>
      obtain ⟨-, name, hname⟩ := isNamedCall_iff.mp hnamed
      -- no error node below the call, so that its own site counts and comes last
      have hcall := hperforms.concat ⟨place, .mk .call token children⟩ hname (hvalue arguments rfl)
      rw [callsBefore_of_findError?_eq_none hlimit (hfind.trans herror) hnamed,
        eval_call_of_ok hrun hname]
      refine ⟨_, fun before => ?_, hcall, ?_⟩
      · rw [eval_call_of_ok (hrecording before) hname, ← List.append_assoc]
        rfl
      · intro v hv results hagrees
        obtain ⟨-, hlast⟩ := (agrees_append hperforms.length_eq).mp hagrees
        have hresult : results place = (call name arguments s').1 := by simpa [Agrees] using hlast
        have houtcome : outcome results place (.mk .call token children) = results place :=
          if_pos hnamed
        rw [houtcome, hresult]
        exact (Except.ok.inj hv).symm
    | false =>
      have hname : ∀ name, (Node.mk .call token children).value ≠ .funcName name := by
        intro name hvalue
        rw [isNamedCall_iff.mpr ⟨rfl, name, hvalue⟩] at hnamed
        cases hnamed
      rw [callsBefore_of_isNamedCall hnamed, List.append_nil, eval_call_of_ne hrun hname]
      refine ⟨trace, fun before => eval_call_of_ne (hrecording before) hname, hperforms, ?_⟩
      intro v hv results _
      have houtcome : outcome results place (.mk .call token children) = .nil :=
        if_neg (Bool.eq_false_iff.mp hnamed)
      rw [houtcome]
      exact (Except.ok.inj hv).symm

mutual

/-- Evaluating a tree makes its calls up to the limit. -/
theorem isTracked_of_isLimit (call : String → List Value → σ → Value × σ) (place : Nat)
    (node : Node) (h : node.HasBareComments) (hlimit : IsLimit limit place node.preorder) (s : σ) :
    IsTracked call limit place node s := by
  obtain ⟨kind, token, children⟩ := node
  obtain ⟨hcomment, hchildren⟩ := hasBareComments_mk_iff.mp h
  cases kind with
  | error =>
    rw [IsTracked, callsBefore_postorder, callsBefore_postorderIn (hlimit.lt_succ rfl),
      callsBefore_of_isNamedCall rfl]
    exact ⟨[], fun before => by simp [eval], .nil s, nofun⟩
  | comment =>
    rw [IsTracked, callsBefore_postorder, callsBefore_of_isNamedCall rfl, hcomment rfl]
    exact ⟨[], fun before => by simp [eval], .nil s, fun v hv _ _ => (Except.ok.inj hv).symm⟩
  | call =>
    have harguments := areTracked_of_isLimit call _ children hchildren (hlimit.tail rfl) s
    exact harguments.isTracked_call hlimit (evalArguments_stopsAt call children hchildren s)
  | argument =>
    have hrow := areTracked_of_isLimit call _ children hchildren (hlimit.tail rfl) s
    exact hrow.isTracked_row rfl (fun _ s => eval_argument token children s) fun _ => rfl
  | statement =>
    have hrow := areTracked_of_isLimit call _ children hchildren (hlimit.tail rfl) s
    exact hrow.isTracked_row rfl (fun _ _ => rfl) fun _ => rfl
  | script =>
    have hrow := areTracked_of_isLimit call _ children hchildren (hlimit.tail rfl) s
    exact hrow.isTracked_row rfl (fun _ _ => rfl) fun _ => rfl

/-- Evaluating arguments makes their calls up to the limit. -/
theorem areTracked_of_isLimit (call : String → List Value → σ → Value × σ) (place : Nat)
    (nodes : List Node) (h : ∀ node ∈ nodes, node.HasBareComments)
    (hlimit : IsLimit limit place (preorderIn nodes)) (s : σ) :
    AreTracked call limit place nodes s := by
  match nodes with
  | [] =>
    refine ⟨[], fun before => ?_, .nil s, fun v hv _ _ => (Except.ok.inj hv).symm⟩
    rw [evalArguments, evalArguments, List.append_nil]
  | node :: nodes =>
    obtain ⟨hnode, hnodes⟩ := List.forall_mem_cons.mp h
    obtain ⟨hfirst, hrest⟩ := IsLimit.append hlimit
    have htracked := isTracked_of_isLimit call place node hnode hfirst s
    have hstops := eval_stopsAt call node hnode s
    rw [findError?_eq_find?] at hstops
    rcases hrun : eval call node s with ⟨result, s'⟩
    rw [hrun] at hstops
    obtain ⟨e, herror, rfl⟩ | ⟨herror, value, rfl⟩ := hstops.cases
    · exact htracked.cons_of_error hrun (hfirst.lt (findIdx_lt_length_of_find? herror))
    · have hlimit' := hrest (findIdx_eq_length_of_find? herror)
      exact htracked.cons_of_ok hrun (areTracked_of_isLimit call _ nodes hnodes hlimit' s')

end

/-! ## The calls of a tree -/

/-- No place of a call comes twice. -/
theorem nodup_places_callSites (node : Node) : (node.callSites.map Site.place).Nodup := by
  have hperm := perm_places_postorder 0 node
  have hnodup : ((node.postorder 0).map Site.place).Nodup :=
    hperm.nodup_iff.mpr List.nodup_range'
  exact (List.filter_sublist.map Site.place).nodup hnodup

/-- Neither before a call that is made nor in it stands an error node. -/
theorem exists_preorder_eq_of_mem_callSites {node : Node} {site : Site}
    (h : site ∈ node.callSites) :
    ∃ before after, node.preorder = before ++ site.node.preorder ++ after ∧
      before.length = site.place ∧ ∀ n ∈ before ++ site.node.preorder, n.isError = false := by
  obtain ⟨hsite, hcall⟩ := List.mem_filter.mp h
  obtain ⟨before, after, heq, hplace⟩ := exists_preorder_eq_of_mem_postorder hsite
  have hstop : site.stop ≤ node.errorPlace := by
    simp only [Bool.and_eq_true, decide_eq_true_eq] at hcall
    exact hcall.2
  refine ⟨before, after, heq, by omega, List.findIdx_eq_length.mp ?_⟩
  have hle : (before ++ site.node.preorder).findIdx isError ≤
      (before ++ site.node.preorder).length := List.findIdx_le_length
  -- an error node up to the end of the subtree would be the first one, before its own place
  rw [errorPlace, heq, List.findIdx_append, Site.stop] at hstop
  rw [List.length_append] at hle hstop ⊢
  split at hstop
  · omega
  · omega

/-- Without an error node all calls with a name are made. -/
theorem callSites_of_findError? {node : Node} (h : node.findError? = none) :
    node.callSites = (node.postorder 0).filter (·.node.isNamedCall) := by
  rw [findError?_eq_find?] at h
  have herror : node.errorPlace = node.preorder.length := findIdx_eq_length_of_find? h
  refine List.filter_congr fun site hsite => ?_
  obtain ⟨before, after, heq, hplace⟩ := exists_preorder_eq_of_mem_postorder hsite
  have hstop : site.stop ≤ node.errorPlace := by
    rw [herror, heq, Site.stop, List.length_append, List.length_append]
    omega
  simp [hstop]

end Node

/-- Different places can be given any results. -/
theorem exists_results {places : List Nat} (hnodup : places.Nodup) {values : List Value}
    (hlength : places.length = values.length) :
    ∃ results : Nat → Value, places.map results = values := by
  induction places generalizing values with
  | nil =>
    obtain rfl := List.length_eq_zero_iff.mp hlength.symm
    exact ⟨fun _ => .nil, rfl⟩
  | cons place places ih =>
    obtain ⟨hplace, hplaces⟩ := List.nodup_cons.mp hnodup
    obtain ⟨value, values, rfl⟩ := List.exists_cons_of_length_eq_add_one hlength.symm
    obtain ⟨results, hresults⟩ := ih hplaces (Nat.succ.inj hlength)
    refine ⟨fun n => if n = place then value else results n, ?_⟩
    have hothers : ∀ n ∈ places, (if n = place then value else results n) = results n := by
      intro n hn
      have hne : n ≠ place := fun heq => hplace (heq ▸ hn)
      exact if_neg hne
    rw [List.map_cons, if_pos rfl, List.map_congr_left hothers, hresults]

/-- The calls that evaluating a tree makes are exactly the calls of the tree that end before its
first error node, children before their parents and left to right: each of them once, in the state
that the one before it left, with one argument for each child, which is what the child stands for.
Recording the calls changes nothing else. No call is made whose subtree holds an error node or
stands behind one, and all are made if there is none. -/
theorem calls_follow_postorder {F : Type} (apply : F → List Value → Session F → Value × Session F)
    {node : Node} (h : node.HasBareComments) (s : Session F) :
    ∃ (trace : List (Invocation (Session F))) (results : Nat → Value),
      node.eval (recorded (Session.call apply)) (s, []) =
        ((node.eval (Session.call apply) s).1, (Session.eval apply node s).2, trace) ∧
      Chained (Session.call apply) s trace (Session.eval apply node s).2 ∧
      List.Forall₂ (CallOf results) node.callSites trace ∧
      (node.callSites.map Site.place).Nodup ∧
      (∀ site ∈ node.callSites, ∃ before after,
        node.preorder = before ++ site.node.preorder ++ after ∧ before.length = site.place ∧
          ∀ n ∈ before ++ site.node.preorder, n.isError = false) ∧
      (node.findError? = none →
        node.callSites = (node.postorder 0).filter (·.node.isNamedCall)) := by
  have hstate : (Session.eval apply node s).2 = (node.eval (Session.call apply) s).2 := by
    rw [Session.eval]
    rcases node.eval (Session.call apply) s with ⟨message | value, s'⟩
    · rfl
    · rfl
  obtain ⟨trace, hrecording, hperforms, -⟩ :=
    Node.isTracked_of_isLimit (Session.call apply) 0 node h node.isLimit_errorPlace s
  have hnodup := node.nodup_places_callSites
  have hlength : (node.callSites.map Site.place).length = (trace.map Invocation.value).length := by
    rw [List.length_map, List.length_map]
    exact hperforms.length_eq
  -- the places are distinct, so that each can have the result of its own call
  obtain ⟨results, hresults⟩ := exists_results hnodup hlength
  rw [List.map_map] at hresults
  rw [hstate]
  exact ⟨trace, results, hrecording [], hperforms.chained, hperforms.calls results hresults, hnodup,
    fun _ => Node.exists_preorder_eq_of_mem_callSites, Node.callSites_of_findError?⟩

/-- A call with two calls as arguments, and one with a call and what could not be read, behind
which there is another call. -/
def Node.interrupted : Node :=
  .script [named "f" [.nested (named "g" []), .nested (named "h" [])],
    named "k" [.nested (named "m" []), .leaf .error (Token.failure (Position.start "t") "no call"),
      .nested (named "n" [])]]
where
  named (name : String) (arguments : List Node) : Node :=
    .mk .call (some ⟨Position.start "t", .func, .funcName name⟩) arguments

/-- Four of the six calls are made. -/
theorem calls_follow_postorder_interrupted :
    (Node.interrupted.callSites.map fun site => (site.place, site.node.value)) =
      [(3, .funcName "g"), (5, .funcName "h"), (1, .funcName "f"), (8, .funcName "m")] ∧
    ∃ (trace : List (Invocation (Session Unit))) (results : Nat → Value),
      Node.interrupted.eval (recorded (Session.call fun () _ s => (.int 1, s)))
          ({ env := Environment.register {} "g" () }, []) =
        ((Node.interrupted.eval (Session.call fun () _ s => (.int 1, s))
            { env := Environment.register {} "g" () }).1,
          (Session.eval (fun () _ s => (.int 1, s)) Node.interrupted
            { env := Environment.register {} "g" () }).2, trace) ∧
      List.Forall₂ (CallOf results) Node.interrupted.callSites trace := by
  have hbare : Node.interrupted.HasBareComments := by decide
  obtain ⟨trace, results, hrecording, -, hcalls, -⟩ := calls_follow_postorder
    (fun () _ s => (.int 1, s)) hbare { env := Environment.register {} "g" () }
  exact ⟨rfl, trace, results, hrecording, hcalls⟩

end CallScript
