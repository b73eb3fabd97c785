import CallScript.Proofs.Acceptance

/-!
# Where syntax errors are reported

Every state of the parser can be completed to a script, and a step fails only at a token that
completes nothing. So the token at which reading stops is the first one that no script continues
with, and the error that is reported is about that token: its position, and its own message if it
is an error of the text.
-/

namespace CallScript

open Grammar

/-! ## Every state can be completed -/

/-- Some token of a kind. -/
def Grammar.Terminal.any (kind : TokenKind) : Terminal kind :=
  ⟨⟨Position.start "", kind, .nil⟩, rfl⟩

/-- Closing parentheses complete the calls around a call. -/
theorem exists_closes (outer : List OpenCall) (call : Node) (rest : List Token) :
    ∃ ts node, Closes outer call ts node rest := by
  induction outer generalizing call with
  | nil => exact ⟨rest, call, rfl, rfl⟩
  | cons around outer ih =>
    obtain ⟨ts, node, hcloses⟩ := ih ((around.push (.nested call)).extend []).node
    exact ⟨_, node, .close (.any _), ts, rfl, hcloses⟩

/-- Every state of a call can be completed. -/
theorem CallState.exists_completes (state : CallState) (rest : List Token) :
    ∃ ts node, state.Completes ts node rest := by
  cases state with
  | named name outer =>
    obtain ⟨ts, node, hcloses⟩ := exists_closes outer (OpenCall.node ⟨name, []⟩) rest
    exact ⟨_, node, .any _, _, rfl, .inl ⟨.any _, ts, rfl, hcloses⟩⟩
  | opened call outer =>
    obtain ⟨ts, node, hcloses⟩ := exists_closes outer call.node rest
    exact ⟨_, node, .inl ⟨.any _, ts, rfl, hcloses⟩⟩
  | divided call outer =>
    let argument : ArgumentPhrase := .literal (.any _)
    let tail : ArgumentsTail := .close (.any _)
    obtain ⟨ts, node, hcloses⟩ :=
      exists_closes outer (call.extend (argument.node :: tail.nodes)).node rest
    exact ⟨_, node, argument, tail, ts, rfl, hcloses⟩
  | filled call outer =>
    let tail : ArgumentsTail := .close (.any _)
    obtain ⟨ts, node, hcloses⟩ := exists_closes outer (call.extend tail.nodes).node rest
    exact ⟨_, node, tail, ts, rfl, hcloses⟩

/-- Every state of a script can be completed. -/
theorem ScriptState.exists_completes (state : ScriptState) : ∃ ts node, state.Completes ts node := by
  obtain ⟨statements, phase⟩ := state
  cases phase with
  | lineStart => exact ⟨_, _, .last .empty, .any _, rfl, rfl⟩
  | inCall call =>
    obtain ⟨ts, statement, hcompletes⟩ := call.exists_completes [(Terminal.any .done).1]
    exact ⟨ts, _, statement, _, hcompletes, .inl ⟨.any _, rfl, rfl⟩⟩
  | lineEnd => exact ⟨_, _, .inl ⟨.any _, rfl, rfl⟩⟩

/-- Tokens that are read without a stop begin some script. -/
theorem ScriptState.Reaches.isViable {state : ScriptState} {ts : List Token}
    (h : start.Reaches ts state) : IsViable (ts.map Token.kind) := by
  obtain ⟨us, node, hcompletes⟩ := state.exists_completes
  obtain ⟨script, htokens, -⟩ := completes_start_iff.mp (h.completes_append_iff.mpr hcompletes)
  exact (isViable_map_kind_iff ts).mpr ⟨us, script, htokens⟩

/-- Tokens at the last of which reading fails begin no script. -/
theorem ScriptState.Reaches.not_isViable {state : ScriptState} {ts : List Token} {t : Token}
    {tree : Node} (h : start.Reaches ts state) (hstop : state.step false t = .stop tree true) :
    ¬ IsViable ((ts ++ [t]).map Token.kind) := by
  intro hviable
  obtain ⟨us, script, htokens⟩ := (isViable_map_kind_iff _).mp hviable
  rw [List.append_assoc] at htokens
  have hcompletes := h.completes_append_iff.mp (completes_start_iff.mpr ⟨script, htokens, rfl⟩)
  rw [List.cons_append, completes_cons_iff, hstop] at hcompletes
  exact absurd hcompletes.1 (by decide)

/-- Kinds with an error among them begin no script. -/
theorem Grammar.not_isViable_of_mem {kinds : List TokenKind} (h : .error ∈ kinds) :
    ¬ IsViable kinds := by
  intro h
  obtain ⟨more, script, hkinds⟩ := h
  have hmem : TokenKind.error ∈ script.tokens.map Token.kind := by
    rw [hkinds]
    exact List.mem_append_left _ h
  obtain ⟨t, ht, herror⟩ := List.mem_map.mp hmem
  exact script.kind_ne_error t ht herror

/-! ## The report -/

/-- The error node of a token is about its position, with the message of the token itself if that
is an error. -/
theorem exists_errorNode_eq {t : Token} {source : String} (h : t.BelongsTo source)
    (expected : String) :
    ∃ token : Token, errorNode t expected = .leaf .error token ∧ token.position = t.position ∧
      (∃ about, token.value = .error (t.position.message about)) ∧
      (t.kind = .error → token.value = t.value) := by
  unfold errorNode
  split
  · next hkind => exact ⟨t, rfl, rfl, h.message_of_error hkind, fun _ => rfl⟩
  · next hkind => exact ⟨_, rfl, rfl, ⟨_, rfl⟩, fun herror => absurd herror hkind⟩

@[simp] theorem Value.render_error (message : String) : (Value.error message).render = message :=
  String.ofList_toList

/-- Syntax errors are reported at the first token that continues no script. If a text is refused,
there is a token of its sequence such that the kinds before it begin a script and the kinds up to
it do not, as kinds with an error among them never do; the error has that token's position, which
names the source, and a message that begins with the position and is the token's own message if
the token is an error of the text. -/
theorem parseChecked_error_at_first_refused {source : String} {text : List Char} {e : SyntaxError}
    (h : parseChecked source text = .error e) :
    ∃ ks, (TokenStream.ofText source text).Yields ks ∧ ∃ (k : Nat) (t : Token), ks[k]? = some t ∧
      IsViable ((ks.take k).map Token.kind) ∧ ¬ IsViable ((ks.take (k + 1)).map Token.kind) ∧
      (∀ kinds, .error ∈ kinds → ¬ IsViable kinds) ∧
      e.position = t.position ∧ e.position.source = source ∧
      (∃ about, e.message = e.position.text ++ ": " ++ about) ∧
      (t.kind = .error → t.value = .error e.message) := by
  obtain ⟨ks, hks⟩ : ∃ ks, (TokenStream.ofText source text).Yields ks :=
    ⟨_, TokenStream.yields_upcoming _⟩
  obtain ⟨ts, t, us, state, failed, rfl, hreaches, hstop, -, hreport⟩ :=
    exists_stop_parseScript hks
  cases failed with
  | false =>
    rw [parseChecked_of_eq_none hreport] at h
    cases h
  | true =>
    have hbelongs := hks.belongsTo (TokenStream.ofText_readsFrom source text) t (by simp)
    obtain ⟨expected, herror⟩ := hreport
    obtain ⟨token, hnode, hposition, ⟨about, habout⟩, hown⟩ := exists_errorNode_eq hbelongs expected
    rw [hnode] at herror
    rw [parseChecked_of_eq_some herror, habout, Value.render_error, hposition] at h
    cases h
    have htake : (ts ++ t :: us).take (ts.length + 1) = ts ++ [t] := by
      rw [List.append_cons, List.take_left' (by simp)]
    refine ⟨_, hks, ts.length, t, by simp, ?_, ?_, fun _ => not_isViable_of_mem, rfl,
      hbelongs.source_eq, ⟨about, rfl⟩, fun hkind => by rw [← hown hkind, habout]⟩
    · rw [List.take_left]
      exact hreaches.isViable
    · rw [htake]
      exact hreaches.not_isViable hstop

/-- A comma missing in a nested call is reported at the token in its place. -/
theorem parseChecked_error_in_nested_call :
    parseChecked "s" ['@', 'f', '(', '@', 'g', '(', '1', ' ', '2'] =
        .error ⟨⟨"s", 1, 9⟩, "s:1:9: expected , or ), got 2"⟩ ∧
      ∃ ks, (TokenStream.ofText "s" ['@', 'f', '(', '@', 'g', '(', '1', ' ', '2']).Yields ks ∧
        ∃ (k : Nat) (t : Token), ks[k]? = some t ∧ IsViable ((ks.take k).map Token.kind) ∧
          ¬ IsViable ((ks.take (k + 1)).map Token.kind) ∧ (⟨"s", 1, 9⟩ : Position) = t.position := by
  have herror : parseChecked "s" ['@', 'f', '(', '@', 'g', '(', '1', ' ', '2'] =
      .error ⟨⟨"s", 1, 9⟩, "s:1:9: expected , or ), got 2"⟩ := by rfl
  obtain ⟨ks, hks, k, t, hk, hviable, hnot, -, hposition, -⟩ :=
    parseChecked_error_at_first_refused herror
  exact ⟨herror, ks, hks, k, t, hk, hviable, hnot, hposition⟩

end CallScript
