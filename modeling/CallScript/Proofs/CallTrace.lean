import CallScript.Proofs.CallOrder

/-!
# The trace of an evaluation

Any tree, whatever its shape and whatever error nodes it holds, is evaluated by making calls one
after the other, each in the state that the one before it left. The calls are the trace of the
evaluation. Nothing else touches the state, so what every call keeps is kept by the evaluation.
-/

namespace CallScript

variable {σ : Type} {call : String → List Value → σ → Value × σ}

/-- One more call behind others. -/
theorem Chained.concat {s t : σ} {trace : List (Invocation σ)} (h : Chained call s trace t)
    (name : String) (arguments : List Value) :
    Chained call s
      (trace ++ [⟨name, arguments, t, (call name arguments t).1, (call name arguments t).2⟩])
      (call name arguments t).2 :=
  h.append ⟨rfl, rfl, rfl⟩

/-- A computation makes the calls of a trace, and makes the same ones if they are recorded. Each of
them is the call of one of the nodes. -/
structure Follows {α : Type} (call : String → List Value → σ → Value × σ) (nodes : List Node)
    (s : σ) (result : Except String α × σ)
    (recording : List (Invocation σ) → Except String α × (σ × List (Invocation σ)))
    (trace : List (Invocation σ)) : Prop where
  recording_eq : ∀ before, recording before = (result.1, result.2, before ++ trace)
  chained : Chained call s trace result.2
  exists_node : ∀ invocation ∈ trace, ∃ n ∈ nodes, n.kind = .call ∧
    n.value = .funcName invocation.name

namespace Follows

variable {α β : Type} {nodes nodes' : List Node} {s : σ} {result : Except String α × σ}
  {recording : List (Invocation σ) → Except String α × (σ × List (Invocation σ))}
  {trace : List (Invocation σ)}

/-- A computation without calls. -/
theorem nil (value : Except String α) (s : σ) :
    Follows call nodes s (value, s) (fun before => (value, s, before)) [] where
  recording_eq := fun before => by rw [List.append_nil]
  chained := rfl
  exists_node := nofun

/-- The nodes may be some of others. -/
theorem mono (h : Follows call nodes s result recording trace) (hsubset : nodes ⊆ nodes') :
    Follows call nodes' s result recording trace where
  recording_eq := h.recording_eq
  chained := h.chained
  exists_node := by
    intro invocation hmem
    obtain ⟨n, hn, hcall⟩ := h.exists_node invocation hmem
    exact ⟨n, hsubset hn, hcall⟩

/-- Making something else of the value does not change the calls. -/
theorem map (h : Follows call nodes s result recording trace) (f : α → β) :
    Follows call nodes s (result.1.map f, result.2)
      (fun before => ((recording before).1.map f, (recording before).2)) trace where
  recording_eq := fun before => by rw [h.recording_eq]
  chained := h.chained
  exists_node := h.exists_node

end Follows

namespace Node

variable {node : Node} {nodes children : List Node} {token : Option Token} {s s' : σ}

/-- Evaluating the tree follows some trace. -/
def HasTrace (call : String → List Value → σ → Value × σ) (node : Node) (s : σ) : Prop :=
  ∃ trace, Follows call node.preorder s (node.eval call s)
    (fun before => node.eval (recorded call) (s, before)) trace

/-- Evaluating the trees of a row as arguments follows some trace. -/
def HaveTrace (call : String → List Value → σ → Value × σ) (nodes : List Node) (s : σ) : Prop :=
  ∃ trace, Follows call (preorderIn nodes) s (evalArguments call nodes s)
    (fun before => evalArguments (recorded call) nodes (s, before)) trace

/-- Behind a tree without a value no calls are made. -/
theorem HasTrace.cons_of_error (h : HasTrace call node s) {message : String}
    (hrun : node.eval call s = (.error message, s')) : HaveTrace call (node :: nodes) s := by
  obtain ⟨trace, hfollows⟩ := h
  obtain ⟨hrecording, hchained, hnodes⟩ := hfollows.mono (List.subset_append_left _ (preorderIn nodes))
  rw [hrun] at hrecording hchained
  rw [HaveTrace, evalArguments_cons_of_error hrun]
  exact ⟨trace, fun before => evalArguments_cons_of_error (hrecording before), hchained, hnodes⟩

/-- Behind a tree with a value come the calls of the others. -/
theorem HasTrace.cons_of_ok (h : HasTrace call node s) {value : Value}
    (hrun : node.eval call s = (.ok value, s')) (hrest : HaveTrace call nodes s') :
    HaveTrace call (node :: nodes) s := by
  obtain ⟨trace, hfollows⟩ := h
  obtain ⟨more, hfollows'⟩ := hrest
  obtain ⟨hrecording, hchained, hnodes⟩ := hfollows.mono (List.subset_append_left _ (preorderIn nodes))
  obtain ⟨hrecording', hchained', hnodes'⟩ := hfollows'.mono (List.subset_append_right node.preorder _)
  rw [hrun] at hrecording hchained
  rw [HaveTrace, evalArguments_cons_of_ok hrun]
  refine ⟨trace ++ more, fun before => ?_, hchained.append hchained',
    List.forall_mem_append.mpr ⟨hnodes, hnodes'⟩⟩
  rw [evalArguments_cons_of_ok (hrecording before), hrecording', List.append_assoc]

/-- A node that is a row of its children makes their calls. -/
theorem HaveTrace.hasTrace_row {kind : NodeKind} {last : Value} (h : HaveTrace call children s)
    (heval : ∀ {τ : Type} (call : String → List Value → τ → Value × τ) (s : τ),
      (Node.mk kind token children).eval call s = evalRow call last children s) :
    HasTrace call (.mk kind token children) s := by
  obtain ⟨trace, htrace⟩ := h
  simp only [HasTrace, heval, evalRow_eq]
  exact ⟨trace, (htrace.map _).mono (List.subset_cons_self _ _)⟩

/-- A call makes the calls of its arguments, and then its own if they have values and it has a
name. -/
theorem HaveTrace.hasTrace_call (h : HaveTrace call children s) :
    HasTrace call (.mk .call token children) s := by
  obtain ⟨trace, htrace⟩ := h
  obtain ⟨hrecording, hchained, hnodes⟩ :=
    htrace.mono (List.subset_cons_self (.mk .call token children) _)
  rcases hrun : evalArguments call children s with ⟨message | arguments, s'⟩
  · rw [hrun] at hrecording hchained
    rw [HasTrace, eval_call_of_error hrun]
    exact ⟨trace, fun before => eval_call_of_error (hrecording before), hchained, hnodes⟩
  · rw [hrun] at hrecording hchained
    by_cases hname : ∃ name, (Node.mk .call token children).value = .funcName name
    · obtain ⟨name, hname⟩ := hname
      rw [HasTrace, eval_call_of_ok hrun hname]
      have hlast : ∃ n ∈ (Node.mk .call token children).preorder, n.kind = .call ∧
          n.value = .funcName name := ⟨_, List.mem_cons_self, rfl, hname⟩
      refine ⟨_, fun before => ?_, hchained.concat name arguments,
        List.forall_mem_append.mpr ⟨hnodes, List.forall_mem_singleton.mpr hlast⟩⟩
      rw [eval_call_of_ok (hrecording before) hname, ← List.append_assoc]
      rfl
    · have hnone := not_exists.mp hname
      rw [HasTrace, eval_call_of_ne hrun hnone]
      exact ⟨trace, fun before => eval_call_of_ne (hrecording before) hnone, hchained, hnodes⟩

mutual

/-- Every tree is evaluated by calls one after the other. -/
theorem hasTrace (call : String → List Value → σ → Value × σ) (node : Node) (s : σ) :
    HasTrace call node s := by
  obtain ⟨kind, token, children⟩ := node
  cases kind with
  | error => exact ⟨[], .nil _ s⟩
  | comment => exact ⟨[], .nil _ s⟩
  | call => exact (haveTrace call children s).hasTrace_call
  | argument =>
    exact (haveTrace call children s).hasTrace_row fun _ s => eval_argument token children s
  | statement => exact (haveTrace call children s).hasTrace_row fun _ _ => rfl
  | script => exact (haveTrace call children s).hasTrace_row fun _ _ => rfl

/-- Every row of arguments is evaluated by calls one after the other. -/
theorem haveTrace (call : String → List Value → σ → Value × σ) (nodes : List Node) (s : σ) :
    HaveTrace call nodes s := by
  match nodes with
  | [] => exact ⟨[], .nil _ s⟩
  | node :: nodes =>
    rcases hrun : eval call node s with ⟨message | value, s'⟩
    · exact (hasTrace call node s).cons_of_error hrun
    · exact (hasTrace call node s).cons_of_ok hrun (haveTrace call nodes s')

end

/-- The calls that evaluating a tree makes, in order. -/
def trace (call : String → List Value → σ → Value × σ) (node : Node) (s : σ) :
    List (Invocation σ) :=
  (node.eval (recorded call) (s, [])).2.2

/-- An evaluation follows its trace. -/
theorem follows_trace (call : String → List Value → σ → Value × σ) (node : Node) (s : σ) :
    Follows call node.preorder s (node.eval call s)
      (fun before => node.eval (recorded call) (s, before)) (node.trace call s) := by
  obtain ⟨trace, hfollows⟩ := node.hasTrace call s
  have htrace : node.trace call s = trace := by
    rw [Node.trace, hfollows.recording_eq]
    rfl
  rw [htrace]
  exact hfollows

end Node

end CallScript
