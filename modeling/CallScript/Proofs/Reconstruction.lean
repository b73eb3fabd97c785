import CallScript.Eval.Evaluation
import CallScript.Proofs.RoundTrip
import CallScript.Standard.Functions

/-!
# Containers are rebuilt by their text

The canonical text of a list or map is a call of the standard function that builds it, with the
canonical texts of its parts as arguments. So the text is a script, and running it in an
environment with the standard functions gives the container back. An absent value is written as
the field `nil`, which has no value as long as no variable and no resolver gives it one.
-/

namespace CallScript

/-! ## Positions do not matter to evaluation -/

namespace Node

section Positions

variable {σ : Type} {f : Token → Token}

/-- Replacing a token keeps the value of its node if it keeps the value of the token. -/
theorem value_mk_map (hf : ∀ t, (f t).value = t.value) (kind : NodeKind) (token : Option Token) :
    (Node.mk kind (token.map f) []).value = (Node.mk kind token []).value := by
  cases token with
  | none => rfl
  | some t => exact hf t

/-- Replacing the tokens of a row keeps it empty or not. -/
theorem isEmpty_mapTokensIn (nodes : List Node) : (mapTokensIn f nodes).isEmpty = nodes.isEmpty := by
  cases nodes with
  | nil => rfl
  | cons node nodes => rfl

mutual

/-- Replacing tokens by others of the same value does not change what a tree evaluates to. -/
theorem eval_mapTokens (hf : ∀ t, (f t).value = t.value)
    (call : String → List Value → σ → Value × σ) (node : Node) (s : σ) :
    (node.mapTokens f).eval call s = node.eval call s := by
  cases node with
  | mk kind token children =>
    cases kind with
    | error => simp only [mapTokens, eval, value_mk_map hf]
    | comment => simp only [mapTokens, eval, value_mk_map hf]
    | call =>
      simp only [mapTokens, eval, value_mk_map hf, evalArguments_mapTokensIn hf call children]
    | argument =>
      simp only [mapTokens, eval, value_mk_map hf, isEmpty_mapTokensIn,
        evalRow_mapTokensIn hf call .nil children]
    | statement => simp only [mapTokens, eval, evalRow_mapTokensIn hf call .nil children]
    | script => simp only [mapTokens, eval, evalRow_mapTokensIn hf call .nil children]

/-- Replacing tokens by others of the same value does not change what a row evaluates to. -/
theorem evalRow_mapTokensIn (hf : ∀ t, (f t).value = t.value)
    (call : String → List Value → σ → Value × σ) (result : Value) (nodes : List Node) (s : σ) :
    evalRow call result (mapTokensIn f nodes) s = evalRow call result nodes s := by
  match nodes with
  | [] => rfl
  | node :: nodes =>
    rw [mapTokensIn, evalRow, evalRow, eval_mapTokens hf call node]
    split
    · rfl
    · exact evalRow_mapTokensIn hf call _ nodes _

/-- Replacing tokens by others of the same value does not change what arguments evaluate to. -/
theorem evalArguments_mapTokensIn (hf : ∀ t, (f t).value = t.value)
    (call : String → List Value → σ → Value × σ) (nodes : List Node) (s : σ) :
    evalArguments call (mapTokensIn f nodes) s = evalArguments call nodes s := by
  match nodes with
  | [] => rfl
  | node :: nodes =>
    rw [mapTokensIn, evalArguments, evalArguments, eval_mapTokens hf call node]
    split
    · rfl
    · simp only [evalArguments_mapTokensIn hf call nodes]

end

end Positions

end Node

/-! ## Entries as keys and values in turn -/

namespace Dict

variable {α : Type}

/-- The keys increase from entry to entry. -/
def Sorted (d : Dict α) : Prop :=
  d.Pairwise fun e e' => e.1 < e'.1

/-- A key behind all others is inserted at the end. -/
theorem insert_eq_append {d : Dict α} {key : String} (h : ∀ e ∈ d, e.1 < key) (value : α) :
    insert d key value = d ++ [(key, value)] := by
  induction d with
  | nil => rfl
  | cons entry d ih =>
    obtain ⟨k, v⟩ := entry
    have hlt : k < key := h (k, v) List.mem_cons_self
    have hne : key ≠ k := by
      intro heq
      rw [heq] at hlt
      exact String.lt_irrefl k hlt
    have hrest := ih fun e he => h e (List.mem_cons_of_mem (k, v) he)
    rw [insert, if_neg hne, if_neg (String.lt_asymm hlt), hrest, List.cons_append]

end Dict

/-- The keys of a map, as strings, and its values in turn. -/
def Value.inTurn (entries : List (String × Value)) : List Value :=
  entries.flatMap fun e => [.string e.1, e.2]

/-- The text of entries is the text of their keys and values. -/
theorem Value.entriesText_eq (entries : List (String × Value)) :
    entriesText entries = itemsText (inTurn entries) := by
  induction entries with
  | nil => rfl
  | cons entry entries ih =>
    obtain ⟨k, x⟩ := entry
    cases entries with
    | nil => rfl
    | cons next entries =>
      have htext : entriesText ((k, x) :: next :: entries) =
          Text.quote k.toList ++ ',' :: (x.text ++ ',' :: entriesText (next :: entries)) := rfl
      rw [htext, ih]
      rfl

/-- Sorted entries are put together again behind the entries that are known. -/
theorem StandardFunction.pairs_inTurn {known entries : Dict Value}
    (h : Dict.Sorted (known ++ entries)) :
    pairs known (Value.inTurn entries) = .ok (.map (known ++ entries)) := by
  induction entries generalizing known with
  | nil =>
    rw [List.append_nil]
    rfl
  | cons entry entries ih =>
    obtain ⟨k, x⟩ := entry
    -- all known keys come before this one, so that inserting it appends it
    have hbefore : ∀ e ∈ known, e.1 < k := by
      intro e he
      exact (List.pairwise_append.mp h).2.2 e he (k, x) List.mem_cons_self
    have hstep : pairs known (Value.inTurn ((k, x) :: entries)) =
        pairs (known.insert k x) (Value.inTurn entries) := rfl
    rw [List.append_cons] at h ⊢
    rw [hstep, Dict.insert_eq_append hbefore, ih h]

/-- Keys and values in turn are even in number. -/
theorem Value.length_inTurn (entries : List (String × Value)) :
    (inTurn entries).length = 2 * entries.length := by
  induction entries with
  | nil => rfl
  | cons entry entries ih =>
    rw [inTurn, List.flatMap_cons, List.length_append, ← inTurn, ih, List.length_cons]
    simp only [List.length_cons, List.length_nil]
    omega

/-- The map of the keys and values of sorted entries has these entries. -/
theorem StandardFunction.mapOf_inTurn {entries : Dict Value} (h : Dict.Sorted entries) :
    mapOf (Value.inTurn entries) = .ok (.map entries) := by
  have heven : (Value.inTurn entries).length % 2 = 0 := by
    rw [Value.length_inTurn]
    omega
  rw [mapOf, if_pos heven]
  exact pairs_inTurn h

/-! ## Arguments that stand for values -/

section Resolving

variable {F : Type}

/-- Resolving a value changes nothing but the journal. -/
theorem Session.env_resolve (s : Session F) (v : Value) : (s.resolve v).2.env = s.env := by
  cases v with
  | fieldName field => exact s.env_resolveField field
  | _ => rfl

/-- Resolving values changes nothing but the journal. -/
theorem Session.env_resolveAll (s : Session F) (vs : List Value) :
    (s.resolveAll vs).2.env = s.env := by
  induction vs generalizing s with
  | nil => rfl
  | cons v vs ih =>
    have hrest := ih (s.resolve v).2
    rw [s.env_resolve v] at hrest
    exact hrest

/-- In the environment, resolving the first value gives the second. -/
def Environment.Resolves (env : Environment F) (w v : Value) : Prop :=
  ∀ s : Session F, s.env = env → (s.resolve w).1 = v

end Resolving

/-- The environment has the standard functions, and nothing gives the field `nil` a value. -/
structure Environment.IsStandard (env : Environment StandardFunction) : Prop where
  functions_eq : env.functions = StandardFunction.environment.functions
  var_nil : env.var? "nil" = none
  resolvers_eq : env.resolvers = []

/-- Calling a function by name when the functions are the standard ones. -/
abbrev callStandard :
    String → List Value → Session StandardFunction → Value × Session StandardFunction :=
  Session.call StandardFunction.apply

variable {env : Environment StandardFunction}

/-- Evaluating the call gives the value and keeps the environment. -/
def Call.Builds (env : Environment StandardFunction) (call : Call) (v : Value) : Prop :=
  ∀ s, s.env = env → ∃ s', call.node.eval callStandard s = (.ok v, s') ∧ s'.env = env

/-- Evaluating the argument gives what resolves to the value, and keeps the environment. -/
def Argument.StandsFor (env : Environment StandardFunction) (argument : Argument) (v : Value) :
    Prop :=
  ∀ s, s.env = env → ∃ w s', argument.node.eval callStandard s = (.ok w, s') ∧ s'.env = env ∧
    env.Resolves w v

/-- Evaluating the arguments gives what resolves to the values, and keeps the environment. -/
def Argument.AllStandFor (env : Environment StandardFunction) (arguments : List Argument)
    (values : List Value) : Prop :=
  ∀ s, s.env = env → ∃ ws s',
    Node.evalArguments callStandard (Argument.nodes arguments) s = (.ok ws, s') ∧ s'.env = env ∧
    ∀ t : Session StandardFunction, t.env = env → (t.resolveAll ws).1 = values

/-- A literal stands for its value. -/
theorem Argument.standsFor_literal (constant : Literal) :
    (Argument.literal constant).StandsFor env constant.value := by
  intro s hs
  refine ⟨constant.value, s, rfl, hs, ?_⟩
  cases constant with
  | int n => exact fun _ _ => rfl
  | string text => exact fun _ _ => rfl
  | json span => exact fun _ _ => rfl

/-- The field that stands for absent values. -/
def FieldReference.nil : FieldReference where
  path := ⟨["nil"]⟩
  segments_ne_nil := by simp
  point_notMem := by decide
  isNameChar_of_mem := List.all_eq_true.mp rfl
  isAlphabetic_head := ⟨'n', rfl, rfl⟩

/-- The field `nil` has no value in a standard environment. -/
theorem Environment.IsStandard.lookup_nil (henv : env.IsStandard) :
    env.lookup? FieldReference.nil.path = none := by
  have hkeys : FieldReference.nil.path.keys = ["nil"] := by decide
  simp [lookup?, inVariables?, hkeys, henv.var_nil, henv.resolvers_eq]

/-- The field `nil` stands for the absent value. -/
theorem Argument.standsFor_nil (henv : env.IsStandard) :
    (Argument.field FieldReference.nil).StandsFor env .nil := by
  intro s hs
  refine ⟨.fieldName FieldReference.nil.path, s, rfl, hs, ?_⟩
  intro t ht
  change (t.resolveField FieldReference.nil.path).1 = .nil
  rw [Session.resolveField, ht, henv.lookup_nil]

/-- A call that builds a value stands for it if the value, unlike a field, resolves to itself. -/
theorem Call.Builds.standsFor {call : Call} {v : Value} (h : call.Builds env v)
    (hv : env.Resolves v v) : (Argument.call call).StandsFor env v := by
  intro s hs
  obtain ⟨s', heval, henv⟩ := h s hs
  refine ⟨v, s', ?_, henv, hv⟩
  have hnested : (Argument.call call).node.eval callStandard s =
      Node.evalRow callStandard .nil [call.node] s := rfl
  rw [hnested, Node.evalRow, heval]
  rfl

/-- No arguments stand for no values. -/
theorem Argument.allStandFor_nil : Argument.AllStandFor env [] [] :=
  fun s hs => ⟨[], s, rfl, hs, fun _ _ => rfl⟩

/-- Arguments stand for values if the first stands for the first and the others for the others. -/
theorem Argument.allStandFor_cons {argument : Argument} {arguments : List Argument} {v : Value}
    {values : List Value} (h : argument.StandsFor env v)
    (hrest : Argument.AllStandFor env arguments values) :
    Argument.AllStandFor env (argument :: arguments) (v :: values) := by
  intro s hs
  obtain ⟨w, s', heval, henv, hw⟩ := h s hs
  obtain ⟨ws, s'', hevals, henv', hws⟩ := hrest s' henv
  refine ⟨w :: ws, s'', ?_, henv', ?_⟩
  · rw [Argument.nodes, Node.evalArguments, heval]
    simp only [hevals]
  · intro t ht
    have hfirst := hw t ht
    have hothers := hws (t.resolve w).2 (by rw [t.env_resolve, ht])
    change (t.resolve w).1 :: ((t.resolve w).2.resolveAll ws).1 = _
    rw [hfirst, hothers]

/-- A call builds what its function answers to the values that its arguments stand for. -/
theorem Call.builds_of_apply {name : FunctionName} {arguments : List Argument}
    {values : List Value} {v : Value} {function : StandardFunction}
    (harguments : Argument.AllStandFor env arguments values)
    (hfunction : env.function? name.name = some function)
    (happly : ∀ (t : Session StandardFunction) (ws : List Value),
      (t.resolveAll ws).1 = values → function.apply ws t = (v, (t.resolveAll ws).2)) :
    (Call.mk name arguments).Builds env v := by
  intro s hs
  obtain ⟨ws, s', hevals, henv, hws⟩ := harguments s hs
  -- the session in which the function is applied: the call itself is in the journal
  let t := s'.record (.calling name.name ws.length)
  have ht : t.env = env := henv
  have hcall : callStandard name.name ws s' = (v, (t.resolveAll ws).2) := by
    rw [callStandard, Session.call, henv, hfunction]
    exact happly t ws (hws t ht)
  refine ⟨(t.resolveAll ws).2, ?_, by rw [t.env_resolveAll, ht]⟩
  have hnode : (Call.mk name arguments).node.eval callStandard s =
      (.ok (callStandard name.name ws s').1, (callStandard name.name ws s').2) := by
    rw [Call.node, Node.eval, hevals]
    rfl
  rw [hnode, hcall]

/-! ## The text of a value as a call -/

/-- The characters of an argument without blanks. -/
def Argument.text (argument : Argument) : List Char :=
  argument.spellings.flatMap Spelling.text

/-- The characters of a call without blanks. -/
def Call.text (call : Call) : List Char :=
  call.spellings.flatMap Spelling.text

/-- Some argument is written as the value and stands for it. -/
def Value.IsWritten (env : Environment StandardFunction) (v : Value) : Prop :=
  ∃ argument : Argument, argument.text = v.text ∧ argument.StandsFor env v

/-- The value of a literal is written as the literal. -/
theorem Value.isWritten_literal (constant : Literal) : constant.value.IsWritten env :=
  ⟨.literal constant, List.append_nil _, Argument.standsFor_literal constant⟩

/-- The absent value is written as the field `nil`. -/
theorem Value.isWritten_nil (henv : env.IsStandard) : Value.nil.IsWritten env :=
  ⟨.field .nil, rfl, Argument.standsFor_nil henv⟩

/-- If all values are written, then so are they in a row, one argument for each. -/
theorem Value.exists_arguments {values : List Value} (h : ∀ v ∈ values, v.IsWritten env) :
    ∃ arguments : List Argument, arguments.length = values.length ∧
      (Argument.rowSpellings arguments).flatMap Spelling.text = itemsText values ∧
      Argument.AllStandFor env arguments values := by
  induction values with
  | nil => exact ⟨[], rfl, rfl, Argument.allStandFor_nil⟩
  | cons v values ih =>
    obtain ⟨argument, htext, hstands⟩ := h v List.mem_cons_self
    obtain ⟨arguments, hlength, hrow, hall⟩ := ih fun w hw => h w (List.mem_cons_of_mem v hw)
    refine ⟨argument :: arguments, by simp [hlength], ?_, Argument.allStandFor_cons hstands hall⟩
    -- a comma stands behind the first argument only if there are others
    match values, arguments with
    | [], [] => exact htext
    | w :: values, next :: arguments =>
      have hspellings : Argument.rowSpellings (argument :: next :: arguments) =
          argument.spellings ++ .comma :: Argument.rowSpellings (next :: arguments) := rfl
      rw [hspellings, List.flatMap_append, List.flatMap_cons, hrow, ← Argument.text, htext]
      rfl

/-- The name of the function that builds lists. -/
def FunctionName.list : FunctionName where
  name := "list"
  ne_nil := by decide
  isNameChar_of_mem := List.all_eq_true.mp rfl

/-- The name of the function that builds maps. -/
def FunctionName.map : FunctionName where
  name := "map"
  ne_nil := by decide
  isNameChar_of_mem := List.all_eq_true.mp rfl

/-- A call is written as its mark, its name and its arguments in parentheses. -/
theorem Call.text_mk (name : FunctionName) (arguments : List Argument) :
    (Call.mk name arguments).text = '@' :: (name.name.toList ++ '(' ::
      ((Argument.rowSpellings arguments).flatMap Spelling.text ++ [')'])) := by
  have hname : (Spelling.function name).text = '@' :: name.name.toList := rfl
  rw [Call.text, Call.spellings, List.flatMap_cons, List.flatMap_cons, List.flatMap_append, hname]
  rfl

/-- The text of a list is a call that builds it. -/
theorem Value.exists_call_list (henv : env.IsStandard) {items : List Value}
    (h : ∀ v ∈ items, v.IsWritten env) :
    ∃ call : Call, call.text = (Value.list items).text ∧ call.Builds env (.list items) := by
  obtain ⟨arguments, -, hrow, hall⟩ := exists_arguments h
  have hfunction : env.function? FunctionName.list.name = some .list := by
    rw [Environment.function?, henv.functions_eq]
    decide
  refine ⟨.mk .list arguments, ?_, Call.builds_of_apply hall hfunction ?_⟩
  · rw [Call.text_mk, hrow]
    rfl
  · intro t ws hws
    rw [← hws]
    rfl

/-- The text of a map with sorted entries is a call that builds it. -/
theorem Value.exists_call_map (henv : env.IsStandard) {entries : List (String × Value)}
    (hsorted : Dict.Sorted entries) (h : ∀ e ∈ entries, e.2.IsWritten env) :
    ∃ call : Call, call.text = (Value.map entries).text ∧ call.Builds env (.map entries) := by
  have hparts : ∀ v ∈ inTurn entries, v.IsWritten env := by
    intro v hv
    obtain ⟨e, he, hmem⟩ := List.mem_flatMap.mp hv
    simp only [List.mem_cons, List.not_mem_nil, or_false] at hmem
    rcases hmem with rfl | rfl
    · exact isWritten_literal (.string e.1)
    · exact h e he
  obtain ⟨arguments, -, hrow, hall⟩ := exists_arguments hparts
  have hfunction : env.function? FunctionName.map.name = some .map := by
    rw [Environment.function?, henv.functions_eq]
    decide
  refine ⟨.mk .map arguments, ?_, Call.builds_of_apply hall hfunction ?_⟩
  · rw [Call.text_mk, hrow, ← entriesText_eq]
    rfl
  · intro t ws hws
    have hreply : StandardFunction.map.apply ws t =
        (StandardFunction.map.orComplain (StandardFunction.mapOf (t.resolveAll ws).1),
          (t.resolveAll ws).2) := rfl
    rw [hreply, hws, StandardFunction.mapOf_inTurn hsorted]
    rfl

/-! ## Rebuilding -/

/-- Values built of absent values, integers, strings, JSON documents cut out by their braces, lists,
and maps, whose entries come sorted by key. -/
inductive Value.IsData : Value → Prop where
  | nil : IsData .nil
  | int (n : Int64) : IsData (.int n)
  | string (s : String) : IsData (.string s)
  | json (span : JsonSpan) : IsData (.json span.raw)
  | list {items : List Value} (parts : ∀ v ∈ items, IsData v) : IsData (.list items)
  | map {entries : List (String × Value)} (sorted : Dict.Sorted entries)
      (parts : ∀ e ∈ entries, IsData e.2) : IsData (.map entries)

/-- Lists and maps. -/
def Value.IsContainer : Value → Prop
  | .list _ | .map _ => True
  | _ => False

/-- All data is written as an argument that stands for it, to any depth. -/
theorem Value.IsData.isWritten (henv : env.IsStandard) {v : Value} (h : v.IsData) :
    v.IsWritten env := by
  induction h with
  | nil => exact isWritten_nil henv
  | int n => exact isWritten_literal (.int n)
  | string s => exact isWritten_literal (.string s)
  | json span => exact isWritten_literal (.json span)
  | list _ ih =>
    obtain ⟨call, htext, hbuilds⟩ := exists_call_list henv ih
    exact ⟨.call call, htext, hbuilds.standsFor fun _ _ => rfl⟩
  | map hsorted _ ih =>
    obtain ⟨call, htext, hbuilds⟩ := exists_call_map henv hsorted ih
    exact ⟨.call call, htext, hbuilds.standsFor fun _ _ => rfl⟩

/-- The text of a container of data is a call that builds it. -/
theorem Value.IsData.exists_call (henv : env.IsStandard) {v : Value} (h : v.IsData)
    (hcontainer : v.IsContainer) : ∃ call : Call, call.text = v.text ∧ call.Builds env v := by
  cases h with
  | list parts => exact exists_call_list henv fun w hw => (parts w hw).isWritten henv
  | map hsorted parts =>
    exact exists_call_map henv hsorted fun e he => (parts e he).isWritten henv
  | _ => exact hcontainer.elim

/-- A call alone on its line is a script, whose tree holds the tree of the call. -/
theorem Call.exists_parseChecked_text (source : String) (call : Call) :
    ∃ node, parseChecked source call.text = .ok node ∧
      node.mapTokens Token.unplaced = Node.script [call.node] := by
  obtain ⟨phrase, htokens, hnode⟩ := call.exists_phrase
  have hrow : Spelling.Separated (call.spellings ++ []) := call.separated_append trivial
  rw [List.append_nil] at hrow
  have hlines : (Grammar.LinesPhrase.last (.call phrase)).tokens = call.spellings.map Spelling.token :=
    htokens
  obtain ⟨node, hparse, hagree⟩ :=
    exists_parseChecked_layout source (fun _ => Blanks.none) hrow hlines
  rw [Spelling.layout_none] at hparse
  refine ⟨node, hparse, ?_⟩
  have hnodes : (Grammar.LinesPhrase.last (.call phrase)).nodes = [call.node] := by
    rw [Grammar.LinesPhrase.nodes, Grammar.LinePhrase.nodes, hnode]
  rw [hagree, hnodes]
  exact Script.mapTokens_node [.call call]

/-- Evaluating a parsed script of one call is evaluating the call. -/
theorem Call.eval_of_mapTokens_eq {call : Call} {node : Node}
    (h : node.mapTokens Token.unplaced = Node.script [call.node]) {s s' : Session StandardFunction}
    {v : Value} (heval : call.node.eval callStandard s = (.ok v, s')) :
    node.eval callStandard s = (.ok v, s') := by
  have hvalue : ∀ t : Token, t.unplaced.value = t.value := fun _ => rfl
  have hscript : (Node.script [call.node]).eval callStandard s =
      Node.evalRow callStandard .nil [call.node] s := rfl
  rw [← Node.eval_mapTokens hvalue, h, hscript, Node.evalRow, heval]
  rfl

/-- An evaluation that gives a container succeeds with it. -/
theorem Session.tryEval_of_isContainer {node : Node} {v : Value} (hcontainer : v.IsContainer)
    {s s' : Session StandardFunction} (heval : node.eval callStandard s = (.ok v, s')) :
    tryEval StandardFunction.apply node s = (.ok v, s') := by
  rw [tryEval, heval]
  cases v with
  | list items => rfl
  | map entries => rfl
  | _ => exact hcontainer.elim

/-- The canonical text of a container of data is a script, and evaluating the script with the
standard functions gives exactly the container back and leaves the environment as it was. -/
theorem eval_parseChecked_text (source : String) {v : Value} (hdata : v.IsData)
    (hcontainer : v.IsContainer) (s : Session StandardFunction) (henv : s.env.IsStandard) :
    ∃ node s', parseChecked source v.text = .ok node ∧
      Session.eval StandardFunction.apply node s = (v, s') ∧
      Session.tryEval StandardFunction.apply node s = (.ok v, s') ∧ s'.env = s.env := by
  obtain ⟨call, htext, hbuilds⟩ := hdata.exists_call henv hcontainer
  obtain ⟨node, hparse, hnode⟩ := call.exists_parseChecked_text source
  obtain ⟨s', heval, henv'⟩ := hbuilds s rfl
  have hrun := Call.eval_of_mapTokens_eq hnode heval
  rw [htext] at hparse
  refine ⟨node, s', hparse, ?_, Session.tryEval_of_isContainer hcontainer hrun, henv'⟩
  rw [Session.eval, hrun]

/-- A map that holds an empty map and a list of each kind of data. -/
def Value.assortment : Value :=
  .map [("", .map []), ("it's", .list [.nil, .int Int64.minValue, .string "\\n",
    .json (JsonSpan.mk ['\x7d'] rfl).raw])]

/-- The assortment is data. -/
theorem Value.assortment_isData : assortment.IsData := by
  have hkeys : "" < "it's" := by decide
  refine .map (List.pairwise_pair.mpr hkeys) fun e he => ?_
  simp only [List.mem_cons, List.not_mem_nil, or_false] at he
  rcases he with rfl | rfl
  · exact .map .nil nofun
  · refine .list fun v hv => ?_
    simp only [List.mem_cons, List.not_mem_nil, or_false] at hv
    rcases hv with rfl | rfl | rfl | rfl
    · exact .nil
    · exact .int _
    · exact .string _
    · exact .json _

/-- The assortment is rebuilt in an environment with a variable. -/
theorem eval_parseChecked_assortment :
    ∃ node s', parseChecked "t" Value.assortment.text = .ok node ∧
      Session.eval StandardFunction.apply node
        { env := StandardFunction.environment.setVar "x" .nil } = (Value.assortment, s') ∧
      Session.tryEval StandardFunction.apply node
        { env := StandardFunction.environment.setVar "x" .nil } = (.ok Value.assortment, s') ∧
      s'.env = StandardFunction.environment.setVar "x" .nil :=
  eval_parseChecked_text "t" Value.assortment_isData trivial
    { env := StandardFunction.environment.setVar "x" .nil } ⟨rfl, rfl, rfl⟩

end CallScript
