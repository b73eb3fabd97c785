import CallScript.Proofs.AllOrNothing
import CallScript.Proofs.LineJoining
import CallScript.Proofs.Reconstruction

/-!
# A program is its joined text

A program of several scripts is evaluated as a row of groups, one group for each script. The same
texts joined by line breaks are one script with all the statements in one row. Both evaluate the
same statements one after the other, so they make the same calls and end in the same session. Only
the value may differ: a group without statements has no value of its own, and a row keeps the last
one it has seen.
-/

namespace CallScript

namespace Node

variable {σ : Type} {call : String → List Value → σ → Value × σ}

/-! ## Rows behind each other -/

section Rows

variable {nodes more : List Node} {result : Value} {s s' : σ}

/-- Behind a row without a value none is evaluated. -/
theorem evalRow_append_of_error {message : String}
    (h : evalRow call result nodes s = (.error message, s')) :
    evalRow call result (nodes ++ more) s = (.error message, s') := by
  induction nodes generalizing result s with
  | nil => cases h
  | cons node nodes ih =>
    rw [List.cons_append, evalRow]
    rw [evalRow] at h
    rcases hrun : eval call node s with ⟨_ | value, t⟩
    · rw [hrun] at h
      exact h
    · rw [hrun] at h
      exact ih h

/-- Behind a row with a value the others are evaluated. -/
theorem evalRow_append_of_ok {value : Value} (h : evalRow call result nodes s = (.ok value, s')) :
    evalRow call result (nodes ++ more) s = evalRow call value more s' := by
  induction nodes generalizing result s with
  | nil =>
    cases h
    rfl
  | cons node nodes ih =>
    rw [List.cons_append, evalRow]
    rw [evalRow] at h
    rcases hrun : eval call node s with ⟨_ | value, t⟩
    · rw [hrun] at h
      cases h
    · rw [hrun] at h
      exact ih h

/-- What was before does not matter to a row that has a tree. -/
theorem evalRow_of_ne_nil (h : nodes ≠ []) (result result' : Value) (s : σ) :
    evalRow call result nodes s = evalRow call result' nodes s := by
  cases nodes with
  | nil => exact absurd rfl h
  | cons node nodes => rw [evalRow, evalRow]

end Rows

/-- Rows that are evaluated alike by every host in every state. -/
def EvaluateAlike (nodes nodes' : List Node) : Prop :=
  ∀ (σ : Type) (call : String → List Value → σ → Value × σ) (result : Value) (s : σ),
    evalRow call result nodes s = evalRow call result nodes' s

/-- Moving tokens does not change how a row is evaluated. -/
theorem evaluateAlike_moved (source : String) (lines : Nat) (nodes : List Node) :
    EvaluateAlike (mapTokensIn (Token.moved source lines) nodes) nodes := by
  intro σ call result s
  have hvalue : ∀ t : Token, (t.moved source lines).value = t.value := fun _ => rfl
  exact evalRow_mapTokensIn hvalue call result nodes s

/-- Rows that are evaluated alike as a third one. -/
theorem EvaluateAlike.trans {nodes nodes' nodes'' : List Node} (h : EvaluateAlike nodes nodes')
    (h' : EvaluateAlike nodes' nodes'') : EvaluateAlike nodes nodes'' :=
  fun σ call result s => (h σ call result s).trans (h' σ call result s)

/-- Rows that are evaluated alike may stand behind each other. -/
theorem EvaluateAlike.append {nodes nodes' more more' : List Node} (h : EvaluateAlike nodes nodes')
    (h' : EvaluateAlike more more') : EvaluateAlike (nodes ++ more) (nodes' ++ more') := by
  intro σ call result s
  rcases hrun : evalRow call result nodes s with ⟨message | value, s'⟩
  · have hrun' := (h σ call result s).symm.trans hrun
    rw [evalRow_append_of_error hrun, evalRow_append_of_error hrun']
  · have hrun' := (h σ call result s).symm.trans hrun
    rw [evalRow_append_of_ok hrun, evalRow_append_of_ok hrun', h' σ call value s']

/-! ## Groups and their statements -/

/-- Two evaluations end in the same state, both with a value or both with the same message. -/
inductive EndAlike : Except String Value × σ → Except String Value × σ → Prop where
  | failed (message : String) (s : σ) : EndAlike (.error message, s) (.error message, s)
  | reached (value value' : Value) (s : σ) : EndAlike (.ok value, s) (.ok value', s)

/-- Evaluations that end alike end in one state. -/
theorem EndAlike.state_eq {x y : Except String Value × σ} (h : EndAlike x y) : x.2 = y.2 := by
  cases h with
  | failed message s => rfl
  | reached value value' s => rfl

/-- What was before matters at most to the value of a row. -/
theorem evalRow_endAlike (call : String → List Value → σ → Value × σ) (nodes : List Node)
    (result result' : Value) (s : σ) :
    EndAlike (evalRow call result nodes s) (evalRow call result' nodes s) := by
  rw [evalRow_eq, evalRow_eq]
  rcases evalArguments call nodes s with ⟨message | values, s'⟩
  · exact .failed message s'
  · exact .reached _ _ s'

/-- The groups of scripts in a row. -/
def groups (scripts : List Node) : List Node :=
  scripts.map fun script => group script.children

/-- A row of groups ends as the row of all their statements does. -/
theorem groups_endAlike (call : String → List Value → σ → Value × σ) (scripts : List Node)
    (result result' : Value) (s : σ) :
    EndAlike (evalRow call result (groups scripts) s)
      (evalRow call result' (scripts.flatMap children) s) := by
  induction scripts generalizing result result' s with
  | nil => exact .reached result result' s
  | cons script scripts ih =>
    have hfirst := evalRow_endAlike call script.children .nil result' s
    have hgroup : (group script.children).eval call s = evalRow call .nil script.children s := rfl
    rw [groups, List.map_cons, evalRow, hgroup, List.flatMap_cons]
    generalize hrun : evalRow call .nil script.children s = x at hfirst ⊢
    generalize hrun' : evalRow call result' script.children s = y at hfirst
    cases hfirst with
    | failed message s' =>
      rw [evalRow_append_of_error hrun']
      exact .failed message s'
    | reached value value' s' =>
      rw [evalRow_append_of_ok hrun']
      exact ih value value' s'

/-- One script alone is evaluated as the row of its statements. -/
theorem eval_joinScripts_singleton (call : String → List Value → σ → Value × σ) (script : Node)
    (s : σ) : (joinScripts [script]).eval call s = evalRow call .nil script.children s :=
  evalRow_singleton (group script.children) .nil s

/-- Joined scripts end as one script does that has all their statements. -/
theorem joinScripts_endAlike (call : String → List Value → σ → Value × σ) {scripts : List Node}
    {whole : Node} (h : EvaluateAlike whole.children (scripts.flatMap children)) (s : σ) :
    EndAlike ((joinScripts scripts).eval call s) ((joinScripts [whole]).eval call s) := by
  rw [eval_joinScripts_singleton, h σ call .nil s]
  exact groups_endAlike call scripts .nil .nil s

/-- The value of joined scripts is that of the last one: of all their statements in a row if it has
any, and none otherwise. -/
theorem eval_joinScripts_concat (call : String → List Value → σ → Value × σ) (scripts : List Node)
    (last : Node) (s : σ) :
    (last.children ≠ [] → (joinScripts (scripts ++ [last])).eval call s =
      evalRow call .nil ((scripts ++ [last]).flatMap children) s) ∧
    (last.children = [] → ∀ value, ((joinScripts (scripts ++ [last])).eval call s).1 = .ok value →
      value = .nil) := by
  have hfront := groups_endAlike call scripts .nil .nil s
  have hrow : (joinScripts (scripts ++ [last])).eval call s =
      evalRow call .nil (groups scripts ++ [group last.children]) s := by
    have hgroups : groups (scripts ++ [last]) = groups scripts ++ [group last.children] :=
      List.map_append
    rw [← hgroups]
    rfl
  have hgroup : ∀ t, (group last.children).eval call t = evalRow call .nil last.children t :=
    fun _ => rfl
  rw [hrow, List.flatMap_append, List.flatMap_singleton]
  generalize hrun : evalRow call .nil (groups scripts) s = x at hfront
  generalize hrun' : evalRow call .nil (scripts.flatMap children) s = y at hfront
  cases hfront with
  | failed message s' =>
    rw [evalRow_append_of_error hrun, evalRow_append_of_error hrun']
    exact ⟨fun _ => rfl, fun _ => nofun⟩
  | reached value value' s' =>
    rw [evalRow_append_of_ok hrun, evalRow_append_of_ok hrun', evalRow_singleton, hgroup]
    constructor
    · intro hlast
      exact evalRow_of_ne_nil hlast _ _ s'
    · intro hlast value hvalue
      rw [hlast, evalRow] at hvalue
      cases hvalue
      rfl

end Node

/-! ## The joined text -/

namespace ScriptSource

/-- One script of the texts of several, joined by line breaks. -/
def joined (name : String) (sources : List ScriptSource) : ScriptSource :=
  ⟨name, String.ofList (Text.joinWith '\n' (sources.map fun source => source.text.toList))⟩

/-- The joined text of well-formed scripts is well-formed, and its statements are theirs up to the
places of their tokens. -/
theorem ReadAs.exists_parse_joined {sources : List ScriptSource} {scripts : List Node}
    (h : ReadAs sources scripts) (hsources : sources ≠ []) (name : String) :
    ∃ whole, (joined name sources).parse = .ok whole ∧
      Node.EvaluateAlike whole.children (scripts.flatMap Node.children) := by
  rw [joined, parse_mk_ofList]
  induction h with
  | nil => exact absurd rfl hsources
  | @cons source script sources scripts hsource hrest ih =>
    have hfirst : parseChecked source.name source.text.toList = .ok script := hsource
    cases hrest with
    | nil =>
      refine ⟨_, parseChecked_renamed hfirst name, ?_⟩
      rw [List.flatMap_singleton]
      exact Node.evaluateAlike_moved name 0 script.children
    | cons _ _ =>
      obtain ⟨whole, hparse, halike⟩ := ih (List.cons_ne_nil _ _)
      refine ⟨_, parseChecked_append_line hfirst hparse name, ?_⟩
      rw [List.flatMap_cons]
      apply (Node.evaluateAlike_moved name 0 script.children).append
      exact (Node.evaluateAlike_moved name _ whole.children).trans halike

/-- The last of well-formed scripts has the last tree. -/
theorem ReadAs.exists_concat {before : List ScriptSource} {last : ScriptSource} {scripts : List Node}
    (h : ReadAs (before ++ [last]) scripts) {script : Node} (hlast : last.parse = .ok script) :
    ∃ front, scripts = front ++ [script] := by
  induction before generalizing scripts with
  | nil =>
    obtain ⟨_, _, hscript, hnil, rfl⟩ := List.forall₂_cons_left_iff.mp h
    obtain rfl := List.forall₂_nil_left_iff.mp hnil
    rw [hlast] at hscript
    cases hscript
    exact ⟨[], rfl⟩
  | cons source before ih =>
    obtain ⟨first, rest, -, hrest, rfl⟩ := List.forall₂_cons_left_iff.mp h
    obtain ⟨front, rfl⟩ := ih hrest
    exact ⟨first :: front, rfl⟩

end ScriptSource

/-! ## Running a program and its joined text -/

section Programs

variable {F : Type} (apply : F → List Value → Session F → Value × Session F)

namespace Session

variable {node node' : Node} {s : Session F}

/-- The session behind an evaluation does not depend on what counts as a failure. -/
theorem tryEval_snd (node : Node) (s : Session F) :
    (tryEval apply node s).2 = (node.eval (call apply) s).2 := by
  rw [tryEval]
  rcases node.eval (call apply) s with ⟨message | value, s'⟩
  · rfl
  · cases value <;> rfl

/-- Trees that are evaluated alike have the same value or failure. -/
theorem tryEval_congr (h : node.eval (call apply) s = node'.eval (call apply) s) :
    tryEval apply node s = tryEval apply node' s := by
  rw [tryEval, h, tryEval]

/-- A tree without a value results in nothing. -/
theorem tryEval_fst_of_nil (h : (node.eval (call apply) s).1 = .ok .nil) :
    (tryEval apply node s).1 = .ok .nil := by
  rcases hrun : node.eval (call apply) s with ⟨result, s'⟩
  rw [hrun] at h
  obtain rfl : result = .ok .nil := h
  rw [tryEval, hrun]

end Session

namespace ScriptSource.ReadAs

variable {sources : List ScriptSource} {scripts : List Node}

/-- Running well-formed scripts makes the calls of their joined tree. -/
theorem programCalls_eq (h : ReadAs sources scripts) (hsources : sources ≠ []) (s : Session F) :
    programCalls apply sources s = (joinScripts scripts).trace (Session.call apply) s := by
  rw [programCalls, h.parseProgram_eq hsources]

/-- Running well-formed scripts ends in the session behind their joined tree. -/
theorem run_snd (h : ReadAs sources scripts) (hsources : sources ≠ []) (s : Session F) :
    (run apply sources s).2 = ((joinScripts scripts).eval (Session.call apply) s).2 := by
  rw [h.run_eq hsources, Session.tryEval_snd]

/-- Running well-formed scripts of which the last has no statement results in nothing. -/
theorem run_fst_of_blank {script : Node} (h : ReadAs sources (scripts ++ [script]))
    (hsources : sources ≠ []) (hblank : script.children = []) (s : Session F) :
    (run apply sources s).1 = .ok .nil := by
  have hstops := (joinScripts (scripts ++ [script])).eval_stopsAt (Session.call apply)
    h.isClean.hasBareComments s
  rw [h.isClean.findError_eq] at hstops
  obtain ⟨value, hvalue⟩ := hstops
  obtain ⟨-, hnil⟩ := Node.eval_joinScripts_concat (Session.call apply) scripts script s
  obtain rfl := hnil hblank value hvalue
  rw [h.run_eq hsources, Session.tryEval_fst_of_nil apply hvalue]
  rfl

end ScriptSource.ReadAs

/-- A program equals its joined text. Running well-formed scripts one after the other and running
the one script of their texts, joined by line breaks, makes the same calls with the same arguments
and leaves the same session, with the same output in its journal. The result is the same too if the
last script has a statement, comments included; if it has none, the program results in nothing. -/
theorem run_joined (s : Session F) (name : String) (sources : List ScriptSource)
    (hsources : sources ≠ []) (haccepted : ∀ source ∈ sources, ∃ script, source.parse = .ok script) :
    (∃ script, (ScriptSource.joined name sources).parse = .ok script) ∧
    Chained (Session.call apply) s (programCalls apply sources s) (run apply sources s).2 ∧
    programCalls apply sources s = programCalls apply [ScriptSource.joined name sources] s ∧
    (run apply sources s).2 = (run apply [ScriptSource.joined name sources] s).2 ∧
    ∀ last ∈ sources.getLast?, ∀ script, last.parse = .ok script →
      (script.children ≠ [] →
        (run apply sources s).1 = (run apply [ScriptSource.joined name sources] s).1) ∧
      (script.children = [] → (run apply sources s).1 = .ok .nil) := by
  obtain ⟨scripts, hread⟩ := ScriptSource.exists_readAs haccepted
  obtain ⟨whole, hwhole, halike⟩ := hread.exists_parse_joined hsources name
  have hread' : ScriptSource.ReadAs [ScriptSource.joined name sources] [whole] := .cons hwhole .nil
  have hsources' : [ScriptSource.joined name sources] ≠ [] := List.cons_ne_nil _ _
  refine ⟨⟨whole, hwhole⟩, ?_, ?_, ?_, ?_⟩
  · rw [hread.programCalls_eq apply hsources, hread.run_snd apply hsources]
    exact ((joinScripts scripts).follows_trace (Session.call apply) s).chained
  · -- the record of the calls is part of the state in which an evaluation ends
    have hend := Node.joinScripts_endAlike (recorded (Session.call apply)) halike (s, [])
    rw [hread.programCalls_eq apply hsources, hread'.programCalls_eq apply hsources']
    exact congrArg Prod.snd hend.state_eq
  · rw [hread.run_snd apply hsources, hread'.run_snd apply hsources']
    exact (Node.joinScripts_endAlike (Session.call apply) halike s).state_eq
  · intro last hlast script hscript
    obtain ⟨before, rfl⟩ := List.getLast?_eq_some_iff.mp hlast
    obtain ⟨front, rfl⟩ := hread.exists_concat hscript
    constructor
    · intro hchildren
      have heval : (joinScripts (front ++ [script])).eval (Session.call apply) s =
          (joinScripts [whole]).eval (Session.call apply) s := by
        rw [(Node.eval_joinScripts_concat (Session.call apply) front script s).1 hchildren,
          Node.eval_joinScripts_singleton, halike]
      rw [hread.run_eq hsources, hread'.run_eq hsources', Session.tryEval_congr apply heval]
    · intro hchildren
      exact hread.run_fst_of_blank apply hsources hchildren s

end Programs

/-- A script that calls a function and ends without a line break, and one without statements. -/
def ScriptSource.blankLast : List ScriptSource :=
  [⟨"first", String.ofList ['@', 'f', '(', ')']⟩, ⟨"second", String.ofList ['\n', ' ']⟩]

/-- Both runs call the function once, and the program results in nothing. -/
theorem run_joined_blankLast :
    let s : Session Unit := { env := Environment.register {} "f" () }
    let called : Unit → List Value → Session Unit → Value × Session Unit :=
      fun _ _ s => (.int 1, s.record (.remark "called"))
    ScriptSource.blankLast ≠ [] ∧
    (∀ source ∈ ScriptSource.blankLast, ∃ script, source.parse = .ok script) ∧
    (programCalls called ScriptSource.blankLast s).map Invocation.name = ["f"] ∧
    programCalls called ScriptSource.blankLast s =
      programCalls called [ScriptSource.joined "whole" ScriptSource.blankLast] s ∧
    (run called ScriptSource.blankLast s).2 =
      (run called [ScriptSource.joined "whole" ScriptSource.blankLast] s).2 ∧
    (run called ScriptSource.blankLast s).1 = .ok .nil := by
  intro s called
  have hfirst : (⟨"first", String.ofList ['@', 'f', '(', ')']⟩ : ScriptSource).parse =
      .ok (.script [.mk .call (some ⟨⟨"first", 1, 1⟩, .func, .funcName "f"⟩) []]) := by
    rw [ScriptSource.parse_mk_ofList]
    rfl
  have hsecond : (⟨"second", String.ofList ['\n', ' ']⟩ : ScriptSource).parse = .ok (.script []) := by
    rw [ScriptSource.parse_mk_ofList]
    rfl
  have hne : ScriptSource.blankLast ≠ [] := List.cons_ne_nil _ _
  have haccepted : ∀ source ∈ ScriptSource.blankLast, ∃ script, source.parse = .ok script := by
    intro source hsource
    rcases List.mem_cons.mp hsource with rfl | hsource
    · exact ⟨_, hfirst⟩
    · rw [List.mem_singleton.mp hsource]
      exact ⟨_, hsecond⟩
  have honce : (programCalls called ScriptSource.blankLast s).map Invocation.name = ["f"] := by
    have hread : ScriptSource.ReadAs ScriptSource.blankLast _ := .cons hfirst (.cons hsecond .nil)
    rw [hread.programCalls_eq called hne]
    rfl
  obtain ⟨-, -, hcalls, hsession, hresult⟩ :=
    run_joined called s "whole" ScriptSource.blankLast hne haccepted
  exact ⟨hne, haccepted, honce, hcalls, hsession, (hresult _ rfl _ hsecond).2 rfl⟩

end CallScript
