import CallScript.Program
import CallScript.Proofs.CallTrace
import Mathlib.Data.List.Forall2

/-!
# Programs run as a whole or not at all

The scripts of a program are all read before the first of them runs. So a program with a malformed
script changes nothing, wherever that script stands, and the failure is the one that a check of the
program reports. A program of well-formed scripts is never reported as malformed: its one tree is
put together from trees without error nodes, and nothing but an error node makes an evaluation
complain of the script.
-/

namespace CallScript

/-! ## Reading one script after the other -/

namespace ScriptSource

/-- Reading a script is checking its text. -/
theorem parse_mk_ofList (name : String) (text : List Char) :
    (⟨name, String.ofList text⟩ : ScriptSource).parse = parseChecked name text := by
  rw [parse, parsed, String.toList_ofList, parseChecked]

/-- The scripts are well-formed, and these are their trees. -/
def ReadAs (sources : List ScriptSource) (scripts : List Node) : Prop :=
  List.Forall₂ (fun source script => source.parse = .ok script) sources scripts

variable {sources before after : List ScriptSource} {source : ScriptSource} {scripts : List Node}

/-- Well-formed scripts give their trees. -/
theorem ReadAs.parseAll_eq (h : ReadAs sources scripts) : parseAll sources = .ok scripts := by
  induction h with
  | nil => rfl
  | cons hsource _ ih => rw [parseAll, hsource, ih]

/-- The first malformed script is the failure of all, whatever stands behind it. -/
theorem ReadAs.parseAll_append_cons (h : ReadAs before scripts) {error : SyntaxError}
    (hsource : source.parse = .error error) :
    parseAll (before ++ source :: after) = .error (.malformed error) := by
  induction h with
  | nil => rw [List.nil_append, parseAll, hsource]
  | cons hfirst _ ih => rw [List.cons_append, parseAll, hfirst, ih]

/-- Scripts are all well-formed, or one of them is the first that is not. -/
theorem exists_readAs_or_rejected (sources : List ScriptSource) :
    (∃ scripts, ReadAs sources scripts) ∨
      ∃ before scripts source after error, sources = before ++ source :: after ∧
        ReadAs before scripts ∧ source.parse = .error error := by
  induction sources with
  | nil => exact .inl ⟨[], .nil⟩
  | cons first sources ih =>
    cases hfirst : first.parse with
    | error error => exact .inr ⟨[], [], first, sources, error, rfl, .nil, hfirst⟩
    | ok script =>
      rcases ih with ⟨scripts, hscripts⟩ | ⟨before, scripts, source, after, error, rfl, hbefore, herror⟩
      · exact .inl ⟨script :: scripts, .cons hfirst hscripts⟩
      · exact .inr ⟨first :: before, script :: scripts, source, after, error, rfl,
          .cons hfirst hbefore, herror⟩

/-- Each of the scripts has a tree. -/
theorem ReadAs.exists_parse_eq (h : ReadAs sources scripts) :
    ∀ source ∈ sources, ∃ script, source.parse = .ok script := by
  induction h with
  | nil => exact nofun
  | cons hsource _ ih => exact List.forall_mem_cons.mpr ⟨⟨_, hsource⟩, ih⟩

/-- The trees of scripts that are all well-formed. -/
theorem exists_readAs (h : ∀ source ∈ sources, ∃ script, source.parse = .ok script) :
    ∃ scripts, ReadAs sources scripts := by
  rcases exists_readAs_or_rejected sources with hread | ⟨_, _, source, _, _, rfl, -, herror⟩
  · exact hread
  · obtain ⟨script, hscript⟩ := h source (by simp)
    rw [herror] at hscript
    cases hscript

/-- The program of at least one well-formed script. -/
theorem ReadAs.parseProgram_eq (h : ReadAs sources scripts) (hsources : sources ≠ []) :
    parseProgram sources = .ok scripts := by
  rw [parseProgram, if_neg (by simpa using hsources), h.parseAll_eq]

end ScriptSource

/-! ## Trees without errors -/

namespace Node

/-- No error node and no comment with children. -/
structure IsClean (node : Node) : Prop where
  findError_eq : node.findError? = none
  hasBareComments : node.HasBareComments

/-- The tree of a well-formed script is clean. -/
theorem isClean_of_parse {source : ScriptSource} {script : Node} (h : source.parse = .ok script) :
    script.IsClean := by
  rw [ScriptSource.parse, Parsed.checked] at h
  cases herror : source.parsed.node.findError? with
  | some e =>
    rw [herror] at h
    cases h
  | none =>
    rw [herror] at h
    cases h
    exact ⟨herror, (Parser.ofText _ _).composed_script.hasBareComments⟩

/-- A row of trees without errors has none. -/
theorem findErrorIn?_eq_none {nodes : List Node} (h : ∀ node ∈ nodes, node.findError? = none) :
    findErrorIn? nodes = none := by
  induction nodes with
  | nil => exact findErrorIn?_nil
  | cons node nodes ih =>
    obtain ⟨hnode, hnodes⟩ := List.forall_mem_cons.mp h
    rw [findErrorIn?, hnode, ih hnodes]
    rfl

/-- Grouping the children of a clean tree keeps it clean. -/
theorem IsClean.group_children {node : Node} (h : node.IsClean) : (group node.children).IsClean := by
  obtain ⟨kind, token, children⟩ := node
  obtain ⟨herror, hbare⟩ := h
  have hkind : kind ≠ .error := by
    intro hkind
    rw [findError?, if_pos hkind] at herror
    cases herror
  rw [findError?_of_ne hkind] at herror
  obtain ⟨-, hchildren⟩ := hasBareComments_mk_iff.mp hbare
  constructor
  · rw [group, findError?_of_ne (by decide)]
    exact herror
  · exact hasBareComments_mk_iff.mpr ⟨nofun, hchildren⟩

/-- Joining clean trees makes a clean one. -/
theorem isClean_joinScripts {scripts : List Node} (h : ∀ script ∈ scripts, script.IsClean) :
    (joinScripts scripts).IsClean := by
  have hgroups : ∀ node ∈ scripts.map fun script => Node.group script.children, node.IsClean := by
    intro node hnode
    obtain ⟨script, hscript, rfl⟩ := List.mem_map.mp hnode
    exact (h script hscript).group_children
  constructor
  · rw [joinScripts, findError?_script]
    exact findErrorIn?_eq_none fun node hnode => (hgroups node hnode).findError_eq
  · exact hasBareComments_mk_iff.mpr ⟨nofun, fun node hnode => (hgroups node hnode).hasBareComments⟩

end Node

/-- The trees of well-formed scripts are clean together. -/
theorem ScriptSource.ReadAs.isClean {sources : List ScriptSource} {scripts : List Node}
    (h : ReadAs sources scripts) : (joinScripts scripts).IsClean := by
  apply Node.isClean_joinScripts
  induction h with
  | nil => exact nofun
  | cons hsource _ ih => exact List.forall_mem_cons.mpr ⟨Node.isClean_of_parse hsource, ih⟩

/-! ## Running and checking -/

section Programs

variable {F : Type}

/-- A clean tree has a value, or an error of the host for one. -/
theorem Session.tryEval_of_isClean (apply : F → List Value → Session F → Value × Session F)
    {node : Node} (h : node.IsClean) (s : Session F) :
    (∃ value, (tryEval apply node s).1 = .ok value) ∨
      ∃ message, (tryEval apply node s).1 = .error (.host message) := by
  cases hresult : (tryEval apply node s).1 with
  | ok value => exact .inl ⟨value, rfl⟩
  | error error =>
    cases error with
    | host message => exact .inr ⟨message, rfl⟩
    | malformed message =>
      obtain ⟨e, he, -⟩ := (tryEval_eq_malformed_iff apply h.hasBareComments s message).mp hresult
      rw [h.findError_eq] at he
      cases he

/-- The calls that running a program makes, in order. -/
def programCalls (apply : F → List Value → Session F → Value × Session F)
    (sources : List ScriptSource) (s : Session F) : List (Invocation (Session F)) :=
  match parseProgram sources with
  | .ok scripts => (joinScripts scripts).trace (Session.call apply) s
  | .error _ => []

/-- Running well-formed scripts is evaluating their joined tree. -/
theorem ScriptSource.ReadAs.run_eq {sources : List ScriptSource} {scripts : List Node}
    (h : ReadAs sources scripts) (hsources : sources ≠ [])
    (apply : F → List Value → Session F → Value × Session F) (s : Session F) :
    run apply sources s =
      ((s.tryEval apply (joinScripts scripts)).1.mapError .eval,
        (s.tryEval apply (joinScripts scripts)).2) := by
  rw [run, h.parseProgram_eq hsources]
  dsimp only
  rcases s.tryEval apply (joinScripts scripts) with ⟨error | value, s'⟩
  · rfl
  · rfl

/-- Running is all or nothing, and agrees with checking. If some script of a program is malformed,
running and checking both fail with what reading the first such script complains of, no call is
made and the session stays as it was. If all are well-formed, checking succeeds, and running gives a
value or fails with an error value of the host, whatever the host's functions do: it never reports a
malformed script. -/
theorem run_all_or_nothing (apply : F → List Value → Session F → Value × Session F) (s : Session F)
    (sources : List ScriptSource) (hsources : sources ≠ []) :
    ((∃ source ∈ sources, ∃ error, source.parse = .error error) →
      ∃ before source after error, sources = before ++ source :: after ∧
        (∀ other ∈ before, ∃ script, other.parse = .ok script) ∧ source.parse = .error error ∧
        run apply sources s = (.error (.malformed error), s) ∧ programCalls apply sources s = [] ∧
        ∀ showTrees, check sources showTrees = .error (.malformed error)) ∧
    ((∀ source ∈ sources, ∃ script, source.parse = .ok script) →
      (∃ scripts, List.Forall₂ (fun source script => source.parse = .ok script) sources scripts ∧
        ∀ showTrees, check sources showTrees =
          .ok (if showTrees then .trees (scripts.map Node.describe) else .valid)) ∧
      ((∃ value, (run apply sources s).1 = .ok value) ∨
        ∃ message, (run apply sources s).1 = .error (.eval (.host message)))) := by
  constructor
  · rintro ⟨rejected, hmem, error, hrejected⟩
    rcases ScriptSource.exists_readAs_or_rejected sources with ⟨scripts, hread⟩ |
      ⟨before, scripts, source, after, error, rfl, hbefore, hsource⟩
    · obtain ⟨script, hscript⟩ := hread.exists_parse_eq rejected hmem
      rw [hrejected] at hscript
      cases hscript
    · have hprogram : parseProgram (before ++ source :: after) = .error (.malformed error) := by
        rw [parseProgram, if_neg (by simp), hbefore.parseAll_append_cons hsource]
      refine ⟨before, source, after, error, rfl, hbefore.exists_parse_eq, hsource, ?_, ?_,
        fun _ => ?_⟩
      · rw [run, hprogram]
      · rw [programCalls, hprogram]
      · rw [check, hprogram]
        rfl
  · intro haccepted
    obtain ⟨scripts, hread⟩ := ScriptSource.exists_readAs haccepted
    refine ⟨⟨scripts, hread, fun _ => ?_⟩, ?_⟩
    · rw [check, hread.parseProgram_eq hsources]
      rfl
    · rw [hread.run_eq hsources]
      rcases s.tryEval_of_isClean apply hread.isClean with ⟨value, hvalue⟩ | ⟨message, hmessage⟩
      · exact .inl ⟨value, by rw [hvalue]; rfl⟩
      · exact .inr ⟨message, by rw [hmessage]; rfl⟩

end Programs

/-- A script that calls a function, and one that is cut off. -/
def ScriptSource.cutOff : List ScriptSource :=
  [⟨"first", String.ofList ['@', 'f', '(', ')', '\n']⟩, ⟨"second", String.ofList ['@', 'f', '(']⟩]

/-- The script that is cut off keeps the first one from running. -/
theorem run_all_or_nothing_cutOff :
    let s : Session Unit := { env := Environment.register {} "f" () }
    let called : Unit → List Value → Session Unit → Value × Session Unit :=
      fun _ _ s => (.nil, s.record (.remark "called"))
    ScriptSource.cutOff ≠ [] ∧ ∃ error, parseChecked "second" ['@', 'f', '('] = .error error ∧
      run called ScriptSource.cutOff s = (.error (.malformed error), s) ∧
      check ScriptSource.cutOff true = .error (.malformed error) := by
  intro s called
  have hfirst : (⟨"first", String.ofList ['@', 'f', '(', ')', '\n']⟩ : ScriptSource).parse =
      .ok (.script [.mk .call (some ⟨⟨"first", 1, 1⟩, .func, .funcName "f"⟩) []]) := by
    rw [ScriptSource.parse_mk_ofList]
    rfl
  have hsecond : parseChecked "second" ['@', 'f', '('] = .error ⟨⟨"second", 1, 4⟩,
      "second:1:4: expected a field, string, int, float, json, or expression, got end of input"⟩ := by
    rfl
  have hrejected : ∃ source ∈ ScriptSource.cutOff, ∃ error, source.parse = .error error :=
    ⟨_, List.mem_cons_of_mem _ List.mem_cons_self, _,
      (ScriptSource.parse_mk_ofList _ _).trans hsecond⟩
  obtain ⟨before, source, after, error, hsources, hbefore, hsource, hrun, -, hcheck⟩ :=
    (run_all_or_nothing called s ScriptSource.cutOff (by simp [ScriptSource.cutOff])).1 hrejected
  refine ⟨by simp [ScriptSource.cutOff], error, ?_, hrun, hcheck true⟩
  -- the script before the failure is the first one, since that is well-formed
  match before with
  | [] =>
    obtain ⟨rfl, -⟩ := List.cons.inj hsources
    rw [hfirst] at hsource
    cases hsource
  | [_] =>
    obtain ⟨-, hrest⟩ := List.cons.inj hsources
    obtain ⟨rfl, -⟩ := List.cons.inj hrest
    rwa [ScriptSource.parse_mk_ofList] at hsource
  | _ :: _ :: _ =>
    have hlength := congrArg List.length hsources
    simp [ScriptSource.cutOff] at hlength

end CallScript
