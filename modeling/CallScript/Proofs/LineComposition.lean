import CallScript.Proofs.ErrorReport
import CallScript.Proofs.LineJoining

/-!
# Parsing line by line

What a parser does at a token depends on the kind of the token, on what has just been read and on
how many calls are open, but not on what the calls and the statements before them hold. So behind an
accepted text and a line break a parser goes through the same states as at the beginning of a text:
it accepts what it accepts there, and where it refuses a token there it refuses the same token here,
further down and with the same complaint.
-/

namespace CallScript

/-! ## States that go on alike -/

/-- Two tokens of the same kind take two states to states that are alike again, or complete both, or
are refused by both for the same reason. -/
inductive StepsAlike {σ : Type} (alike : σ → σ → Prop) (t t' : Token) : Step σ → Step σ → Prop where
  | more {state state' : σ} (h : alike state state') : StepsAlike alike t t' (.more state) (.more state')
  | complete (tree tree' : Node) : StepsAlike alike t t' (.stop tree false) (.stop tree' false)
  | refused {tree tree' : Node} (expected : String)
      (h : tree.findError? = some (errorNode t expected))
      (h' : tree'.findError? = some (errorNode t' expected)) :
      StepsAlike alike t t' (.stop tree true) (.stop tree' true)

namespace CallState

/-- Two calls have been read up to the same place, with as many calls around them. -/
inductive Alike : CallState → CallState → Prop where
  | named {name name' : Token} {outer outer' : List OpenCall} (h : outer.length = outer'.length) :
      Alike (.named name outer) (.named name' outer')
  | opened {call call' : OpenCall} {outer outer' : List OpenCall}
      (h : outer.length = outer'.length) : Alike (.opened call outer) (.opened call' outer')
  | divided {call call' : OpenCall} {outer outer' : List OpenCall}
      (h : outer.length = outer'.length) : Alike (.divided call outer) (.divided call' outer')
  | filled {call call' : OpenCall} {outer outer' : List OpenCall}
      (h : outer.length = outer'.length) : Alike (.filled call outer) (.filled call' outer')

variable {t t' : Token} {call call' : OpenCall} {outer outer' : List OpenCall}

/-- Two refusals with the same expectation are alike. -/
theorem stepsAlike_refuse {calls calls' : List OpenCall} (h : CleanCalls calls)
    (h' : CleanCalls calls') (t t' : Token) (expected : String) :
    StepsAlike Alike t t' (refuse t expected calls) (refuse t' expected calls') := by
  refine .refused expected ?_ ?_
  · rw [findError?_closeWith h, findError?_errorNode]
  · rw [findError?_closeWith h', findError?_errorNode]

/-- Two complete calls are both whole statements, or both arguments of the calls around them. -/
theorem stepsAlike_afterCall (h : outer.length = outer'.length) (t t' : Token)
    (call call' : OpenCall) :
    StepsAlike Alike t t' (afterCall false call outer) (afterCall false call' outer') := by
  cases outer with
  | nil =>
    obtain rfl := List.length_eq_zero_iff.mp h.symm
    exact .complete _ _
  | cons around outer =>
    obtain ⟨around', outer', rfl⟩ := List.exists_of_length_succ _ h.symm
    exact .more (.filled (Nat.succ.inj h))

/-- Two arguments begin alike. -/
theorem stepsAlike_beginArgument (hkind : t'.kind = t.kind) (h : outer.length = outer'.length)
    (hclean : CleanCalls (call :: outer)) (hclean' : CleanCalls (call' :: outer')) :
    StepsAlike Alike t t' (beginArgument false t call outer)
      (beginArgument false t' call' outer') := by
  unfold beginArgument
  rw [hkind]
  split
  · exact .more (.filled h)
  · exact .more (.filled h)
  · exact .more (.named (congrArg Nat.succ h))
  · exact stepsAlike_refuse hclean hclean' t t' _

/-- One step of reading two calls that are alike. -/
theorem Alike.step {state state' : CallState} (h : state.Alike state')
    (hclean : CleanCalls state.calls) (hclean' : CleanCalls state'.calls)
    (hkind : t'.kind = t.kind) :
    StepsAlike Alike t t' (state.step false t) (state'.step false t') := by
  cases h with
  | named h =>
    simp only [CallState.step, hkind]
    split
    · exact .more (.opened h)
    · exact stepsAlike_refuse hclean hclean' t t' _
  | opened h =>
    simp only [CallState.step, hkind]
    split
    · exact stepsAlike_afterCall h t t' _ _
    · exact stepsAlike_beginArgument hkind h hclean hclean'
  | divided h => exact stepsAlike_beginArgument hkind h hclean hclean'
  | filled h =>
    simp only [CallState.step, hkind]
    split
    · exact stepsAlike_afterCall h t t' _ _
    · split
      · exact .more (.divided h)
      · exact stepsAlike_refuse hclean hclean' t t' _

end CallState

/-- Two scripts have been read up to the same place of a line. -/
inductive ScriptPhase.Alike : ScriptPhase → ScriptPhase → Prop where
  | lineStart : Alike .lineStart .lineStart
  | inCall {call call' : CallState} (h : call.Alike call') : Alike (.inCall call) (.inCall call')
  | lineEnd : Alike .lineEnd .lineEnd

namespace ScriptState

/-- Two scripts have been read up to the same place, whatever their statements so far are. -/
def Alike (state state' : ScriptState) : Prop :=
  state.phase.Alike state'.phase

variable {state state' : ScriptState} {t t' : Token}

/-- Two refusals with the same expectation are alike. -/
theorem stepsAlike_refuse {statements statements' : List Node}
    (h : Node.findErrorIn? statements = none) (h' : Node.findErrorIn? statements' = none)
    (t t' : Token) (expected : String) :
    StepsAlike Alike t t' (refuse t expected statements) (refuse t' expected statements') := by
  refine .refused expected ?_ ?_
  · simp [h]
  · simp [h']

/-- One step of reading two scripts that are alike. -/
theorem Alike.step (h : state.Alike state') (hclean : state.Clean) (hclean' : state'.Clean)
    (hkind : t'.kind = t.kind) :
    StepsAlike Alike t t' (state.step false t) (state'.step false t') := by
  obtain ⟨statements, phase⟩ := state
  obtain ⟨statements', phase'⟩ := state'
  obtain ⟨hstatements, hphase⟩ := hclean
  obtain ⟨hstatements', hphase'⟩ := hclean'
  cases h with
  | lineStart =>
    simp only [ScriptState.step, hkind]
    split
    · exact .complete _ _
    · exact .more .lineStart
    · exact .more .lineEnd
    · exact .more (.inCall (.named rfl))
    · exact stepsAlike_refuse hstatements hstatements' t t' _
  | @inCall call call' h =>
    have hcalls := h.step hphase hphase' hkind
    simp only [ScriptState.step]
    generalize call.step false t = result at hcalls
    generalize call'.step false t' = result' at hcalls
    cases hcalls with
    | more h => exact .more (.inCall h)
    | complete tree tree' => exact .more .lineEnd
    | refused expected h h' =>
      refine .refused expected ?_ ?_
      · simp [hstatements, h]
      · simp [hstatements', h']
  | lineEnd =>
    simp only [ScriptState.step, hkind]
    split
    · exact .more .lineStart
    · exact .complete _ _
    · exact stepsAlike_refuse hstatements hstatements' t t' _

/-- A state behind one more token holds no error if the state before it holds none. -/
theorem Clean.of_step {next : ScriptState} (h : state.Clean)
    (hstep : state.step false t = .more next) : next.Clean := by
  have hreaches : state.Reaches [t] next := ⟨next, hstep, rfl⟩
  exact hreaches.clean h

/-- Tokens of the same kinds lead from two states that are alike to two such states. -/
theorem Reaches.exists_alike {last : ScriptState} {ts ts' : List Token}
    (h : state.Reaches ts last) (hkinds : List.Forall₂ (fun t t' => t'.kind = t.kind) ts ts')
    (halike : state.Alike state') (hclean : state.Clean) (hclean' : state'.Clean) :
    ∃ last', state'.Reaches ts' last' ∧ last.Alike last' := by
  induction hkinds generalizing state state' with
  | nil =>
    obtain rfl := h
    exact ⟨state', rfl, halike⟩
  | @cons t t' ts ts' hkind _ ih =>
    obtain ⟨next, hstep, hreaches⟩ := h
    have hsteps := halike.step hclean hclean' hkind
    rw [hstep] at hsteps
    cases hstep' : state'.step false t' with
    | stop tree failed =>
      rw [hstep'] at hsteps
      cases hsteps
    | more next' =>
      rw [hstep'] at hsteps
      cases hsteps with
      | more hnext =>
        obtain ⟨last', hreaches', hlast⟩ :=
          ih hreaches hnext (hclean.of_step hstep) (hclean'.of_step hstep')
        exact ⟨last', ⟨next', hstep', hreaches'⟩, hlast⟩

/-- A token that is refused in a text is refused for the same reason behind other lines without
errors. -/
theorem Reaches.exists_refused {last : ScriptState} {ts ts' : List Token} {tree : Node}
    (h : start.Reaches ts last) (hstop : last.step false t = .stop tree true)
    (hkinds : List.Forall₂ (fun t t' => t'.kind = t.kind) ts ts') (hkind : t'.kind = t.kind)
    {statements : List Node} (hclean : Clean ⟨statements, .lineStart⟩) :
    ∃ last' tree' expected, Reaches ⟨statements, .lineStart⟩ ts' last' ∧
      last'.step false t' = .stop tree' true ∧ tree.findError? = some (errorNode t expected) ∧
      tree'.findError? = some (errorNode t' expected) := by
  have hstart : start.Clean := ⟨rfl, trivial⟩
  have halike : start.Alike ⟨statements, .lineStart⟩ := .lineStart
  obtain ⟨last', hreaches, hlast⟩ := h.exists_alike hkinds halike hstart hclean
  have hsteps := hlast.step (h.clean hstart) (hreaches.clean hclean) hkind
  rw [hstop] at hsteps
  generalize hstop' : last'.step false t' = result at hsteps
  cases hsteps with
  | @refused _ tree' expected herror herror' =>
    exact ⟨last', tree', expected, hreaches, hstop', herror, herror'⟩

/-- Reading goes on from where it has come to. -/
theorem Reaches.append {middle last : ScriptState} {ts us : List Token}
    (h : state.Reaches ts middle) (h' : middle.Reaches us last) : state.Reaches (ts ++ us) last := by
  induction ts generalizing state with
  | nil =>
    obtain rfl := h
    exact h'
  | cons t ts ih =>
    obtain ⟨next, hstep, hreaches⟩ := h
    exact ⟨next, hstep, ih hreaches⟩

/-- Where a script may end, a line break leads to the start of a line. -/
theorem exists_step_eol {tree : Node} (h : state.step false t = .stop tree false) {eol : Token}
    (heol : eol.kind = .eol) :
    ∃ statements, state.step false eol = .more ⟨statements, .lineStart⟩ := by
  obtain ⟨statements, phase⟩ := state
  cases phase with
  | lineStart => exact ⟨statements, by simp [step, heol]⟩
  | inCall call =>
    simp only [step] at h
    split at h
    · cases h
    · next failed _ => cases failed <;> simp [afterStatement] at h
  | lineEnd => exact ⟨statements, by simp [step, heol]⟩

/-- A run is determined by its tokens: where a step stops, its tree is the tree of the run. -/
theorem node_readTree_of_reaches {last : ScriptState} {p : Parser}
    {tokens : List (Token × TokenStream)} {ts us : List Token} {tree : Node} {failed : Bool}
    (htokens : tokens.map Prod.fst = ts ++ t :: us) (hreaches : state.Reaches ts last)
    (hstop : last.step false t = .stop tree failed) :
    (readTree (step false) close state p tokens).node = tree := by
  induction ts generalizing state p tokens with
  | nil =>
    obtain rfl := hreaches
    obtain ⟨⟨first, stream⟩, rest, rfl, rfl, -⟩ := List.map_eq_cons_iff.mp htokens
    simp only [readTree, hstop]
  | cons first ts ih =>
    obtain ⟨next, hstep, hreaches⟩ := hreaches
    obtain ⟨⟨first, stream⟩, rest, rfl, rfl, hrest⟩ := List.map_eq_cons_iff.mp htokens
    simp only [readTree, hstep]
    exact ih hrest hreaches

end ScriptState

/-- The tree of a text is the one with which a run over its tokens stops. -/
theorem parseScript_eq_of_reaches {source : String} {text : List Char} {ts us : List Token}
    {t : Token} {state : ScriptState} {tree : Node} {failed : Bool}
    (h : (TokenStream.ofText source text).Yields (ts ++ t :: us))
    (hreaches : ScriptState.start.Reaches ts state)
    (hstop : state.step false t = .stop tree failed) : parseScript source text = tree := by
  have htokens := (TokenStream.yields_upcoming (TokenStream.ofText source text)).unique h
  exact ScriptState.node_readTree_of_reaches htokens hreaches hstop

/-! ## Behind an accepted text -/

/-- An accepted text is read to its end, and a line break in the place of the end leads to the start
of a line. -/
theorem exists_run_of_parseChecked {source : String} {text : List Char} {node : Node}
    (h : parseChecked source text = .ok node) :
    ∃ (ts : List Token) (done : Token), done.kind = .done ∧
      (TokenStream.reading text (Position.start source)).Yields (ts ++ [done]) ∧
      ∀ eol : Token, eol.kind = .eol →
        ∃ statements, ScriptState.start.Reaches (ts ++ [eol]) ⟨statements, .lineStart⟩ := by
  have hks := TokenStream.yields_upcoming (TokenStream.ofText source text)
  obtain ⟨ts, t, us, state, failed, htokens, hreaches, hstop, hend, hreport⟩ :=
    exists_stop_parseScript hks
  cases failed with
  | true =>
    obtain ⟨expected, herror⟩ := hreport
    rw [parseChecked_of_eq_some herror] at h
    cases h
  | false =>
    obtain rfl := hend rfl
    rw [htokens] at hks
    refine ⟨ts, t, ScriptState.kind_of_step_eq_stop hstop, hks, ?_⟩
    intro eol heol
    obtain ⟨statements, hstep⟩ := ScriptState.exists_step_eol hstop heol
    exact ⟨statements, hreaches.append ⟨_, hstep, rfl⟩⟩

/-- A token that is refused at a moved place is complained about in the same way there. -/
theorem exists_errorNode_moved {source : String} {lines : Nat} {t t' : Token}
    (h : t.MovesTo source lines t') (expected : String) :
    ∃ about, errorNode t expected = .leaf .error (Token.failure t.position about) ∧
      errorNode t' expected = .leaf .error (Token.failure t'.position about) := by
  by_cases herror : t.kind = .error
  · obtain ⟨about, hfailure, hfailure'⟩ := h.failure_eq herror
    have herror' : t'.kind = .error := h.kind_eq.trans herror
    refine ⟨about, ?_, ?_⟩
    · rw [errorNode, if_pos herror, ← hfailure]
    · rw [errorNode, if_pos herror', ← hfailure']
  · have herror' : t'.kind ≠ .error := fun heq => herror (h.kind_eq.symm.trans heq)
    have htext : t'.text = t.text := by rw [Token.text, Token.text, h.kind_eq, h.value_eq herror]
    refine ⟨"expected " ++ expected ++ ", got " ++ t.text, ?_, ?_⟩
    · rw [errorNode, if_neg herror]
    · rw [errorNode, if_neg herror', htext]

/-- A failure as the first error of the tree is the answer to a text. -/
theorem parseChecked_of_failure {source : String} {text : List Char} {p : Position} {about : String}
    (h : (parseScript source text).findError? = some (.leaf .error (Token.failure p about))) :
    parseChecked source text = .error ⟨p, p.message about⟩ := by
  rw [parseChecked_of_eq_some h, Token.failure, Value.render_error]

/-- Rows that are related are related before, at and behind any place of the first of them. -/
theorem exists_of_forall₂_append_cons {r : Token → Token → Prop} {ts us ks : List Token} {t : Token}
    (h : List.Forall₂ r (ts ++ t :: us) ks) :
    ∃ ts' t' us', ks = ts' ++ t' :: us' ∧ List.Forall₂ r ts ts' ∧ r t t' := by
  induction ts generalizing ks with
  | nil =>
    obtain ⟨t', us', ht, -, rfl⟩ := List.forall₂_cons_left_iff.mp h
    exact ⟨[], t', us', rfl, .nil, ht⟩
  | cons first ts ih =>
    obtain ⟨first', rest, hfirst, hrest, rfl⟩ := List.forall₂_cons_left_iff.mp h
    obtain ⟨ts', t', us', rfl, hts, ht⟩ := ih hrest
    exact ⟨first' :: ts', t', us', rfl, .cons hfirst hts, ht⟩

/-- What a text is refused for it is refused for behind an accepted text and a line break. -/
theorem parseChecked_refused_below {source : String} {text : List Char} {node : Node}
    (h : parseChecked source text = .ok node) {more : List Char} {e : SyntaxError}
    (hmore : parseChecked source more = .error e) :
    ∃ about, e.message = e.position.message about ∧
      parseChecked source (text ++ '\n' :: more) =
        .error ⟨e.position.moved source (text.count '\n' + 1),
          (e.position.moved source (text.count '\n' + 1)).message about⟩ := by
  obtain ⟨above, done, hdone, habove, hbreak⟩ := exists_run_of_parseChecked h
  have hks := TokenStream.yields_upcoming (TokenStream.ofText source more)
  obtain ⟨ts, t, us, state, failed, htokens, hreaches, hstop, -, hreport⟩ :=
    exists_stop_parseScript hks
  cases failed with
  | false =>
    rw [parseChecked_of_eq_none hreport] at hmore
    cases hmore
  | true =>
    -- the tokens of the joined text, those of the refused one moved down behind the line break
    rw [htokens] at hks
    obtain ⟨ks', hks', hmoves⟩ := hks.exists_moved source (text.count '\n' + 1)
    obtain ⟨ts', t', us', rfl, hts, ht⟩ := exists_of_forall₂_append_cons hmoves
    rw [Position.moved_start] at hks'
    have hjoined := habove.append_line hdone hks'
    obtain ⟨statements, hline⟩ := hbreak ⟨(Position.start source).advance text, .eol, .nil⟩ rfl
    obtain ⟨state', tree', expected, hreaches', hstop', herror, herror'⟩ :=
      hreaches.exists_refused hstop (hts.imp fun _ _ hmoves => hmoves.kind_eq) ht.kind_eq
        (hline.clean ⟨rfl, trivial⟩)
    obtain ⟨about, hnode, hnode'⟩ := exists_errorNode_moved ht expected
    have hrun := hline.append hreaches'
    rw [List.append_assoc, List.singleton_append] at hrun
    rw [← List.cons_append, ← List.append_assoc] at hjoined
    have htree := parseScript_eq_of_reaches hjoined hrun hstop'
    rw [hnode] at herror
    rw [hnode', ← htree] at herror'
    rw [parseChecked_of_failure herror] at hmore
    cases hmore
    refine ⟨about, rfl, ?_⟩
    rw [parseChecked_of_failure herror', ht.position_eq]

/-- Parsing goes line by line. Behind an accepted text and a line break another text is accepted if
it is accepted on its own, and the statements are those of the first text, as they are, followed by
those of the second, moved down by the lines before them; and it is refused if it is refused on its
own, at the same column of the line as many lines further down and with the same complaint. -/
theorem parsing_composes_over_lines {source : String} {text : List Char} {node : Node}
    (h : parseChecked source text = .ok node) (more : List Char) :
    (∀ node', parseChecked source more = .ok node' →
      parseChecked source (text ++ '\n' :: more) =
        .ok (.script (node.children ++
          Node.mapTokensIn (Token.moved source (text.count '\n' + 1)) node'.children))) ∧
    ∀ e, parseChecked source more = .error e →
      ∃ about, e.message = e.position.message about ∧
        parseChecked source (text ++ '\n' :: more) =
          .error ⟨e.position.moved source (text.count '\n' + 1),
            (e.position.moved source (text.count '\n' + 1)).message about⟩ := by
  refine ⟨fun node' hmore => ?_, fun e hmore => parseChecked_refused_below h hmore⟩
  obtain ⟨lines, done, hyields, -, rfl⟩ := exists_lines_of_parseChecked h
  obtain ⟨lines', done', hyields', herror, rfl⟩ := exists_lines_of_parseChecked hmore
  exact parseChecked_of_lines hyields hyields' herror

/-- Behind a comment and a call on two lines, a call on the third line is accepted, and a call without
its end is refused there. -/
theorem parsing_composes_behind_two_lines :
    (∃ statements : List Node, statements.length = 3 ∧
      parseChecked "s" ['#', 'x', '\n', '@', 'f', '(', '1', ')', '\n', '@', 'g', '(', ')'] =
        .ok (.script statements)) ∧
    parseChecked "s" ['@', 'h', '('] = .error ⟨⟨"s", 1, 4⟩,
      "s:1:4: expected a field, string, int, float, json, or expression, got end of input"⟩ ∧
    ∃ message,
      parseChecked "s" ['#', 'x', '\n', '@', 'f', '(', '1', ')', '\n', '@', 'h', '('] =
        .error ⟨⟨"s", 3, 4⟩, message⟩ := by
  have htext : ∃ node, parseChecked "s" ['#', 'x', '\n', '@', 'f', '(', '1', ')'] = .ok node ∧
      node.children.length = 2 := ⟨_, rfl, rfl⟩
  have hcall : ∃ node, parseChecked "s" ['@', 'g', '(', ')'] = .ok node ∧
      ∃ call, node.children = [call] := ⟨_, rfl, _, rfl⟩
  have hrefused : parseChecked "s" ['@', 'h', '('] = .error ⟨⟨"s", 1, 4⟩,
    "s:1:4: expected a field, string, int, float, json, or expression, got end of input"⟩ := by rfl
  obtain ⟨node, hnode, hlength⟩ := htext
  obtain ⟨node', hnode', call, hchildren⟩ := hcall
  obtain ⟨about, -, hjoined⟩ := (parsing_composes_over_lines hnode ['@', 'h', '(']).2 _ hrefused
  refine ⟨⟨_, ?_, (parsing_composes_over_lines hnode ['@', 'g', '(', ')']).1 node' hnode'⟩, hrefused,
    _, hjoined⟩
  rw [hchildren, List.length_append, hlength]
  rfl

end CallScript
