import CallScript.Program
import CallScript.Proofs.JsonBraces
import CallScript.Proofs.StoredVariables
import CallScript.Proofs.TreeShape

/-!
# References and comments stay out of the data

A call of a script receives literals, fields and what other calls returned. The standard functions
see the values of fields and not the fields, and `set` stores such a value. So where scripts start
with no variables, whatever is stored, returned or seen by a function holds no name and no comment
at any depth, and the JSON in it is what braces cut out of a text.
-/

namespace CallScript

/-! ## Ground values -/

namespace Value

/-- Values without names and comments at any depth, whose JSON documents are cut out by their
braces. -/
inductive IsGround : Value → Prop where
  | nil : IsGround .nil
  | int (n : Int64) : IsGround (.int n)
  | float (x : Float) : IsGround (.float x)
  | string (s : String) : IsGround (.string s)
  | json (span : JsonSpan) : IsGround (.json span.raw)
  | list {items : List Value} (parts : ∀ v ∈ items, IsGround v) : IsGround (.list items)
  | map {entries : List (String × Value)} (parts : ∀ e ∈ entries, IsGround e.2) :
      IsGround (.map entries)
  | error (message : String) : IsGround (.error message)

/-- What a call receives before fields are resolved. -/
def IsOperand (v : Value) : Prop :=
  (∃ field, v = .fieldName field) ∨ v.IsGround

theorem IsLiteral.isGround {v : Value} (h : v.IsLiteral) : v.IsGround := by
  cases h with
  | int n => exact .int n
  | float x => exact .float x
  | string s => exact .string s
  | json span => exact .json span

theorem ofNumber_isGround (n : Json.Number) : (ofNumber n).IsGround := by
  cases n with
  | whole n fits =>
    rw [ofNumber]
    split
    · exact .int _
    · exact .float _
  | real x finite => exact .float x

mutual

/-- Documents have ground values. -/
theorem ofJson_isGround (doc : Json) : (ofJson doc).IsGround := by
  cases doc with
  | null => exact .nil
  | bool b => exact .int _
  | number n => exact ofNumber_isGround n
  | string s => exact .string s
  | array items => exact .list (ofItems_isGround items)
  | object members => exact .map (ofMembers_isGround members)

theorem ofItems_isGround (items : List Json) : ∀ v ∈ ofItems items, v.IsGround := by
  match items with
  | [] => exact nofun
  | doc :: items => exact List.forall_mem_cons.mpr ⟨ofJson_isGround doc, ofItems_isGround items⟩

theorem ofMembers_isGround (members : List (String × Json)) :
    ∀ e ∈ ofMembers members, e.2.IsGround := by
  match members with
  | [] => exact nofun
  | (_, doc) :: members =>
    exact List.forall_mem_cons.mpr ⟨ofJson_isGround doc, ofMembers_isGround members⟩

end

theorem decode_isGround {raw : List UInt8} {v : Value} (h : decode raw = .ok v) : v.IsGround := by
  obtain ⟨doc, -, rfl⟩ := Json.exists_of_map_eq_ok h
  exact ofJson_isGround doc

namespace IsGround

variable {v w : Value}

theorem member? (h : v.IsGround) {key : String} (hmember : v.member? key = some w) :
    w.IsGround := by
  cases h with
  | list parts =>
    obtain ⟨i, -, hitem⟩ := Option.bind_eq_some_iff.mp hmember
    exact parts w (List.mem_of_getElem? hitem)
  | map parts => exact parts (key, w) (Dict.mem_of_get? hmember)
  | _ => cases hmember

theorem opened? (h : v.IsGround) (hopened : v.opened? = some w) : w.IsGround := by
  unfold Value.opened? at hopened
  split at hopened
  · next raw =>
    cases hdecode : decode raw with
    | error fault =>
      rw [hdecode] at hopened
      cases hopened
    | ok value =>
      rw [hdecode] at hopened
      exact Option.some.inj hopened ▸ decode_isGround hdecode
  · exact Option.some.inj hopened ▸ h

theorem child? (h : v.IsGround) {key : String} (hchild : v.child? key = some w) :
    w.IsGround := by
  obtain ⟨doc, hopened, hmember⟩ := Option.bind_eq_some_iff.mp hchild
  exact (h.opened? hopened).member? hmember

/-- Whatever keys find in a ground value is ground, also inside a document. -/
theorem walk? (h : v.IsGround) {keys : List String} (hwalk : v.walk? keys = some w) :
    w.IsGround := by
  induction keys generalizing v with
  | nil => exact Option.some.inj hwalk ▸ h
  | cons key keys ih =>
    obtain ⟨doc, hopened, hwalk⟩ := Option.bind_eq_some_iff.mp hwalk
    obtain ⟨child, hchild, hrest⟩ := Option.bind_eq_some_iff.mp hwalk
    exact ih ((h.opened? hopened).child? hchild) hrest

end IsGround

end Value

/-- Inserting adds its own entry and no other. -/
theorem Dict.mem_insert {α : Type} {d : Dict α} {key : String} {value : α} {entry : String × α}
    (h : entry ∈ d.insert key value) : entry = (key, value) ∨ entry ∈ d := by
  induction d with
  | nil => exact .inl (List.mem_singleton.mp h)
  | cons first rest ih =>
    obtain ⟨k, v⟩ := first
    unfold insert at h
    split at h
    · rcases List.mem_cons.mp h with h | h
      · exact .inl h
      · exact .inr (List.mem_cons_of_mem _ h)
    · split at h
      · rcases List.mem_cons.mp h with h | h
        · exact .inl h
        · exact .inr h
      · rcases List.mem_cons.mp h with h | h
        · exact .inr (h ▸ List.mem_cons_self)
        · exact (ih h).imp_right (List.mem_cons_of_mem _)

/-! ## Replies to ground values -/

namespace StandardFunction

/-- A complaint is ground, so a result is if it is where there is one. -/
theorem orComplain_isGround (function : StandardFunction) {result : Except Standard.Fault Value}
    (h : ∀ v, result = .ok v → v.IsGround) : (function.orComplain result).IsGround := by
  cases result with
  | ok v => exact h v rfl
  | error fault => exact .error _

theorem isGround_of_pairs {known : Dict Value} (hknown : ∀ e ∈ known, e.2.IsGround)
    {values : List Value} (hvalues : ∀ v ∈ values, v.IsGround) {w : Value}
    (h : pairs known values = .ok w) : w.IsGround := by
  fun_induction pairs known values with
  | case1 known key value rest ih =>
    obtain ⟨-, hvalues⟩ := List.forall_mem_cons.mp hvalues
    obtain ⟨hvalue, hrest⟩ := List.forall_mem_cons.mp hvalues
    refine ih ?_ hrest h
    intro e he
    rcases Dict.mem_insert he with rfl | he
    · exact hvalue
    · exact hknown e he
  | case2 => cases h
  | case3 =>
    cases h
    exact .map hknown

theorem isGround_of_lengthOf {values : List Value} {w : Value} (h : lengthOf values = .ok w) :
    w.IsGround := by
  unfold lengthOf at h
  split at h <;> cases h <;> exact .int _

theorem isGround_of_typeOf {values : List Value} {w : Value} (h : typeOf values = .ok w) :
    w.IsGround := by
  unfold typeOf at h
  split at h <;> cases h
  exact .string _

theorem isGround_of_decodeBytes {raw : List UInt8} {w : Value} (h : decodeBytes raw = .ok w) :
    w.IsGround := by
  unfold decodeBytes at h
  cases hdecode : Value.decode raw with
  | error fault =>
    rw [hdecode] at h
    cases h
  | ok v =>
    rw [hdecode] at h
    cases h
    exact Value.decode_isGround hdecode

theorem isGround_of_decodeOf {values : List Value} {w : Value} (h : decodeOf values = .ok w) :
    w.IsGround := by
  unfold decodeOf at h
  split at h
  · exact isGround_of_decodeBytes h
  · exact isGround_of_decodeBytes h
  · cases h
  · cases h

theorem isGround_of_matchOf {values : List Value} {w : Value} (h : matchOf values = .ok w) :
    w.IsGround := by
  unfold matchOf at h
  split at h
  · split at h
    · cases h
    · split at h <;> cases h <;> exact .int _
  · cases h

theorem isGround_of_sum {values : List Value} {w : Value} (h : Standard.sum values = .ok w) :
    w.IsGround := by
  unfold Standard.sum at h
  obtain ⟨total, -, rfl⟩ := Json.exists_of_map_eq_ok h
  cases total with
  | int n => exact .int n
  | decimal d => exact .float _
  | float x => exact .float _

/-- Every function replies to ground values with a ground value. -/
theorem reply_isGround (function : StandardFunction) {values : List Value}
    (h : ∀ v ∈ values, v.IsGround) : (function.reply values).value.IsGround := by
  cases function with
  | nil => exact .nil
  | get => exact .nil
  | set => exact .nil
  | print => exact .nil
  | printf =>
    simp only [reply]
    split
    · exact .nil
    · exact .error _
  | sprintf =>
    refine orComplain_isGround .sprintf fun v hv => ?_
    obtain ⟨text, -, rfl⟩ := Json.exists_of_map_eq_ok hv
    exact .string text
  | list => exact .list h
  | map =>
    refine orComplain_isGround .map fun v hv => ?_
    unfold mapOf at hv
    split at hv
    · exact isGround_of_pairs (by simp) h hv
    · cases hv
  | sum => exact orComplain_isGround .sum fun v hv => isGround_of_sum hv
  | concat => exact .string _
  | len => exact orComplain_isGround .len fun v hv => isGround_of_lengthOf hv
  | type => exact orComplain_isGround .type fun v hv => isGround_of_typeOf hv
  | json => exact orComplain_isGround .json fun v hv => isGround_of_decodeOf hv
  | «matches» => exact orComplain_isGround .matches fun v hv => isGround_of_matchOf hv

end StandardFunction

/-! ## Sessions that hold ground values -/

/-- All variables have ground values. -/
def Environment.HoldsGround {F : Type} (env : Environment F) : Prop :=
  ∀ entry ∈ env.vars, entry.2.IsGround

namespace Session

variable {F : Type} {s : Session F}

/-- All fields find ground values: the variables have such, and nothing else gives values. -/
structure IsGround (s : Session F) : Prop where
  vars : s.env.HoldsGround
  resolvers : s.env.resolvers = []

theorem IsGround.of_env_eq {s' : Session F} (h : s.IsGround) (henv : s'.env = s.env) :
    s'.IsGround := by
  refine ⟨?_, ?_⟩
  · rw [henv]
    exact h.vars
  · rw [henv]
    exact h.resolvers

theorem IsGround.resolveField (h : s.IsGround) (field : FieldPath) :
    (s.resolveField field).1.IsGround := by
  rw [resolveField_fst, Environment.lookup?, h.resolvers]
  cases hfound : s.env.inVariables? field with
  | none => exact .nil
  | some value =>
    change value.IsGround
    unfold Environment.inVariables? at hfound
    split at hfound
    · cases hfound
    · next name keys _ =>
      obtain ⟨stored, hstored, hwalk⟩ := Option.bind_eq_some_iff.mp hfound
      exact (h.vars _ (Dict.mem_of_get? hstored)).walk? hwalk

theorem IsGround.resolve (h : s.IsGround) {value : Value} (hvalue : value.IsOperand) :
    (s.resolve value).1.IsGround := by
  unfold Session.resolve
  split
  · exact h.resolveField _
  · next hfield =>
    rcases hvalue with ⟨field, rfl⟩ | hvalue
    · exact absurd rfl (hfield field)
    · exact hvalue

theorem IsGround.resolveAll (h : s.IsGround) {values : List Value}
    (hvalues : ∀ v ∈ values, v.IsOperand) : ∀ v ∈ (s.resolveAll values).1, v.IsGround := by
  induction values generalizing s with
  | nil => exact nofun
  | cons value values ih =>
    obtain ⟨hvalue, hrest⟩ := List.forall_mem_cons.mp hvalues
    exact List.forall_mem_cons.mpr
      ⟨h.resolve hvalue, ih (h.of_env_eq (s.env_resolve value)) hrest⟩

end Session

/-! ## One call -/

namespace StandardFunction

variable {F : Type} {arguments : List Value} {s : Session F}

theorem isGround_applyGet (h : s.IsGround) (arguments : List Value) :
    (applyGet arguments s).1.IsGround := by
  unfold applyGet
  split
  · split
    · exact h.resolveField _
    · exact .error _
  · exact .error _

/-- `set` returns a ground value, and stores no other. -/
theorem isGround_applySet (h : s.IsGround) (harguments : ∀ v ∈ arguments, v.IsOperand) :
    (applySet arguments s).1.IsGround ∧ (applySet arguments s).2.IsGround := by
  unfold applySet
  split
  · next name value =>
    obtain ⟨hvalue, -⟩ := List.forall_mem_cons.mp (List.forall_mem_cons.mp harguments).2
    split
    · next field _ =>
      have hground := h.resolve hvalue
      have hbehind := h.of_env_eq (s.env_resolve value)
      refine ⟨hground, ?_, hbehind.resolvers⟩
      intro entry hentry
      rcases Dict.mem_insert hentry with rfl | hentry
      · exact hground
      · exact hbehind.vars entry hentry
    · exact ⟨.error _, h⟩
  · exact ⟨.error _, h⟩

/-- All functions but `get` and `set` reply to the values of their arguments. -/
theorem fst_apply_of_ne {function : StandardFunction} (hget : function ≠ .get)
    (hset : function ≠ .set) (arguments : List Value) (s : Session F) :
    (function.apply arguments s).1 = (function.reply (s.resolveAll arguments).1).value := by
  unfold apply
  split
  · exact absurd rfl hget
  · exact absurd rfl hset
  · dsimp only
    split <;> rfl

/-- Every function returns a ground value and leaves a session of ground values. -/
theorem isGround_apply (function : StandardFunction) (h : s.IsGround)
    (harguments : ∀ v ∈ arguments, v.IsOperand) :
    (function.apply arguments s).1.IsGround ∧ (function.apply arguments s).2.IsGround := by
  by_cases hset : function = .set
  · subst hset
    exact isGround_applySet h harguments
  · refine ⟨?_, h.of_env_eq (env_apply_of_ne hset arguments s)⟩
    by_cases hget : function = .get
    · subst hget
      exact isGround_applyGet h arguments
    · rw [fst_apply_of_ne hget hset]
      exact reply_isGround function (h.resolveAll harguments)

/-- Each standard function is registered under its name. -/
theorem function?_name (function : StandardFunction) :
    environment.function? function.name = some function := by
  cases function <;> rfl

end StandardFunction

section Calls

variable {s : Session StandardFunction} {arguments : List Value}

/-- A call returns a ground value and leaves a session of ground values. -/
theorem isGround_callStandard (h : s.IsGround) (hstandard : s.env.HasStandardFunctions)
    (name : String) (harguments : ∀ v ∈ arguments, v.IsOperand) :
    (callStandard name arguments s).1.IsGround ∧ (callStandard name arguments s).2.IsGround := by
  obtain ⟨function, -, hcall⟩ | hcall := callStandard_cases hstandard name arguments
  · rw [hcall]
    exact function.isGround_apply (h.of_env_eq rfl) harguments
  · rw [hcall]
    exact ⟨.nil, h.of_env_eq rfl⟩

/-- The values that arguments resolve to depend on the environment alone. -/
theorem Session.resolveAll_fst_congr {F : Type} {s s' : Session F} (h : s'.env = s.env)
    (values : List Value) : (s'.resolveAll values).1 = (s.resolveAll values).1 := by
  induction values generalizing s s' with
  | nil => rfl
  | cons value values ih =>
    have hvalue : (s'.resolve value).1 = (s.resolve value).1 := by
      unfold Session.resolve
      split
      · rw [resolveField_fst, resolveField_fst, h]
      · rfl
    have hbehind : (s'.resolve value).2.env = (s.resolve value).2.env := by
      rw [s'.env_resolve, s.env_resolve, h]
    exact congrArg₂ List.cons hvalue (ih hbehind)

/-- A call of a function other than `get` and `set` is its reply to the values of the arguments. -/
theorem callStandard_fst_eq_reply (hstandard : s.env.HasStandardFunctions)
    {function : StandardFunction} (hget : function ≠ .get) (hset : function ≠ .set)
    (arguments : List Value) :
    (callStandard function.name arguments s).1 =
      (function.reply (s.resolveAll arguments).1).value := by
  have hfunction := (hstandard function.name).trans function.function?_name
  have hvalues : ((s.record (.calling function.name arguments.length)).resolveAll arguments).1 =
      (s.resolveAll arguments).1 := by
    apply Session.resolveAll_fst_congr
    rfl
  rw [callStandard, Session.call_of_some hfunction, function.fst_apply_of_ne hget hset, hvalues]

end Calls

/-- The call leaves no name or comment in the data: the variables before and behind it and the
value it returns are ground, and the function receives ground values, unless it is one of the two
that take a name. -/
structure Invocation.IsGround (invocation : Invocation (Session StandardFunction)) : Prop where
  before : invocation.before.env.HoldsGround
  after : invocation.after.env.HoldsGround
  value : invocation.value.IsGround
  received : ∀ function : StandardFunction, function ≠ .get → function ≠ .set →
    invocation.name = function.name →
      (∀ v ∈ (invocation.before.resolveAll invocation.arguments).1, v.IsGround) ∧
      invocation.value =
        (function.reply (invocation.before.resolveAll invocation.arguments).1).value

/-! ## Evaluating regular trees -/

namespace Node

variable {σ : Type} {call : String → List Value → σ → Value × σ} {Good : σ → Prop}
  {Operand : Value → Prop}

/-- Calls with operands keep the states good and return operands; literals and fields are such. -/
structure KeepsGood (call : String → List Value → σ → Value × σ) (Good : σ → Prop)
    (Operand : Value → Prop) : Prop where
  field : ∀ path, Operand (.fieldName path)
  literal : ∀ v : Value, v.IsLiteral → Operand v
  call : ∀ name arguments s, Good s → (∀ v ∈ arguments, Operand v) →
    Operand (call name arguments s).1 ∧ Good (call name arguments s).2

/-- The tree leaves a good state, and its value is an operand if it is an argument or a call. -/
def EvaluatesWell (call : String → List Value → σ → Value × σ) (Good : σ → Prop)
    (Operand : Value → Prop) (node : Node) (s : σ) : Prop :=
  Good (node.eval call s).2 ∧
    (node.kind = .call ∨ node.IsArgument → ∀ v, (node.eval call s).1 = .ok v → Operand v)

/-- The trees leave a good state, and their values are operands if all are arguments or calls. -/
def EvaluateWell (call : String → List Value → σ → Value × σ) (Good : σ → Prop)
    (Operand : Value → Prop) (nodes : List Node) (s : σ) : Prop :=
  Good (evalArguments call nodes s).2 ∧
    ((∀ n ∈ nodes, n.kind = .call ∨ n.IsArgument) →
      ∀ values, (evalArguments call nodes s).1 = .ok values → ∀ v ∈ values, Operand v)

section

variable {node : Node} {nodes : List Node} {s s' : σ}

/-- A tree whose value is no argument only has to leave a good state. -/
theorem EvaluateWell.evaluatesWell_script (h : EvaluateWell call Good Operand nodes s) :
    EvaluatesWell call Good Operand (script nodes) s := by
  refine ⟨?_, by simp [IsArgument, Node.script, kind]⟩
  change Good (evalRow call .nil nodes s).2
  rw [evalRow_eq]
  exact h.1

/-- An argument that is a call has the call's value. -/
theorem EvaluateWell.evaluatesWell_nested (h : EvaluateWell call Good Operand [node] s)
    (hkind : node.kind = .call) : EvaluatesWell call Good Operand (nested node) s := by
  obtain ⟨hgood, hoperands⟩ := h
  have heval : (Node.nested node).eval call s = node.eval call s := by
    rw [Node.nested, eval_argument, evalRow_singleton]
  rw [EvaluatesWell, heval]
  rcases hrun : node.eval call s with ⟨message | value, s'⟩
  · rw [evalArguments_cons_of_error hrun] at hgood
    exact ⟨hgood, nofun⟩
  · rw [evalArguments_cons_of_ok hrun] at hgood hoperands
    refine ⟨hgood, ?_⟩
    intro _ v hv
    cases hv
    exact hoperands (by simp [hkind]) [value] rfl value List.mem_cons_self

/-- A call with operands as its arguments is made in a good state. -/
theorem EvaluateWell.evaluatesWell_call (hkeeps : KeepsGood call Good Operand)
    (h : EvaluateWell call Good Operand nodes s) {token : Token} (hname : token.NamesFunction)
    (harguments : ∀ child ∈ nodes, child.IsArgument) :
    EvaluatesWell call Good Operand (.mk .call (some token) nodes) s := by
  obtain ⟨hgood, hoperands⟩ := h
  rcases hrun : evalArguments call nodes s with ⟨message | arguments, s'⟩
  · rw [hrun] at hgood
    rw [EvaluatesWell, eval_call_of_error hrun]
    exact ⟨hgood, nofun⟩
  · rw [hrun] at hgood hoperands
    obtain ⟨name, -, hvalue⟩ := hname.2
    have hroot : (Node.mk .call (some token) nodes).value = .funcName name := hvalue
    rw [EvaluatesWell, eval_call_of_ok hrun hroot]
    have hreceived := hoperands (fun n hn => .inr (harguments n hn)) arguments rfl
    obtain ⟨hreturned, hbehind⟩ := hkeeps.call name arguments s' hgood hreceived
    refine ⟨hbehind, ?_⟩
    intro _ v hv
    cases hv
    exact hreturned

/-- Behind a tree without a value none is evaluated. -/
theorem EvaluatesWell.cons_of_error (h : EvaluatesWell call Good Operand node s) {message : String}
    (hrun : node.eval call s = (.error message, s')) :
    EvaluateWell call Good Operand (node :: nodes) s := by
  obtain ⟨hgood, -⟩ := h
  rw [hrun] at hgood
  rw [EvaluateWell, evalArguments_cons_of_error hrun]
  exact ⟨hgood, nofun⟩

/-- Behind a tree with a value the others are evaluated. -/
theorem EvaluatesWell.cons_of_ok (h : EvaluatesWell call Good Operand node s) {value : Value}
    (hrun : node.eval call s = (.ok value, s'))
    (hrest : EvaluateWell call Good Operand nodes s') :
    EvaluateWell call Good Operand (node :: nodes) s := by
  obtain ⟨-, hoperand⟩ := h
  rw [hrun] at hoperand
  rw [EvaluateWell, evalArguments_cons_of_ok hrun]
  refine ⟨hrest.1, ?_⟩
  intro hkinds values hvalues
  obtain ⟨hkind, hkinds⟩ := List.forall_mem_cons.mp hkinds
  obtain ⟨others, hothers, rfl⟩ := Json.exists_of_map_eq_ok hvalues
  exact List.forall_mem_cons.mpr ⟨hoperand hkind value rfl, hrest.2 hkinds others hothers⟩

end

mutual

/-- A regular tree is evaluated well, since its arguments are literals, fields and calls. -/
theorem evaluatesWell (h : KeepsGood call Good Operand) (node : Node)
    (hregular : ∀ n ∈ node.preorder, n.IsRegular) {s : σ} (hs : Good s) :
    EvaluatesWell call Good Operand node s := by
  obtain ⟨kind, token, children⟩ := node
  obtain ⟨hroot, hchildren⟩ := List.forall_mem_cons.mp hregular
  have hrow := evaluateWell h children hchildren hs
  cases hroot with
  | script => exact hrow.evaluatesWell_script
  | comment => exact ⟨hs, by simp [IsArgument, kind]⟩
  | error => exact ⟨hs, fun _ => nofun⟩
  | field hkind hvalue =>
    refine ⟨hs, ?_⟩
    intro _ v hv
    cases hv
    change Operand (Token.value _)
    rw [hvalue]
    exact h.field _
  | literal hkind hvalue =>
    refine ⟨hs, ?_⟩
    intro _ v hv
    cases hv
    exact h.literal _ hvalue
  | nested hcall => exact hrow.evaluatesWell_nested hcall
  | call hname harguments => exact hrow.evaluatesWell_call h hname harguments

/-- Regular trees in a row are evaluated well. -/
theorem evaluateWell (h : KeepsGood call Good Operand) (nodes : List Node)
    (hregular : ∀ n ∈ preorderIn nodes, n.IsRegular) {s : σ} (hs : Good s) :
    EvaluateWell call Good Operand nodes s := by
  match nodes with
  | [] =>
    refine ⟨hs, ?_⟩
    intro _ values hvalues
    cases hvalues
    exact nofun
  | node :: nodes =>
    obtain ⟨hregular, hrest⟩ := List.forall_mem_append.mp hregular
    have hnode := evaluatesWell h node hregular hs
    rcases hrun : node.eval call s with ⟨message | value, s'⟩
    · exact hnode.cons_of_error hrun
    · have hgood : Good s' := by
        have hgood := hnode.1
        rw [hrun] at hgood
        exact hgood
      exact hnode.cons_of_ok hrun (evaluateWell h nodes hrest hgood)

end

end Node

/-! ## Evaluating texts -/

/-- The session and the calls recorded so far are ground, and the functions are the standard
ones. -/
structure RecordsGround
    (s : Session StandardFunction × List (Invocation (Session StandardFunction))) : Prop where
  session : s.1.IsGround
  standard : s.1.env.HasStandardFunctions
  trace : ∀ invocation ∈ s.2, invocation.IsGround

/-- One more call keeps everything ground. -/
theorem keepsGood_recorded :
    Node.KeepsGood (recorded callStandard) RecordsGround Value.IsOperand where
  field := fun path => .inl ⟨path, rfl⟩
  literal := fun v hv => .inr hv.isGround
  call := by
    intro name arguments s hs harguments
    obtain ⟨s, trace⟩ := s
    obtain ⟨hground, hstandard, htrace⟩ := hs
    obtain ⟨hvalue, hafter⟩ := isGround_callStandard hground hstandard name harguments
    have hfunctions := (agreesBut_callStandard hstandard name arguments).functions_eq
    refine ⟨.inr hvalue, hafter, hstandard.of_functions_eq hfunctions, ?_⟩
    refine List.forall_mem_append.mpr ⟨htrace, List.forall_mem_singleton.mpr ?_⟩
    refine ⟨hground.vars, hafter.vars, hvalue, ?_⟩
    intro function hget hset hname
    obtain rfl : name = function.name := hname
    exact ⟨hground.resolveAll harguments, callStandard_fst_eq_reply hstandard hget hset arguments⟩

/-- Evaluating the tree of a text keeps everything ground. -/
theorem recordsGround_eval (source : String) (text : List Char) {s : Session StandardFunction}
    (hground : s.IsGround) (hstandard : s.env.HasStandardFunctions) :
    RecordsGround ((Session.eval StandardFunction.apply (parseScript source text) s).2,
      (parseScript source text).trace callStandard s) := by
  obtain ⟨-, failed, hends⟩ := endsRegularly_parseScript source text
  have hs : RecordsGround (s, []) := ⟨hground, hstandard, nofun⟩
  obtain ⟨hgood, -⟩ := Node.evaluatesWell keepsGood_recorded _ hends.preorder.1 hs
  rw [((parseScript source text).follows_trace callStandard s).recording_eq] at hgood
  rw [Session.eval_snd]
  exact hgood

namespace ScriptSource

/-- The session behind the trees of texts that are evaluated one after the other, a malformed text
as far as it could be read. -/
def evalAll : List ScriptSource → Session StandardFunction → Session StandardFunction
  | [], s => s
  | source :: sources, s =>
      evalAll sources (Session.eval StandardFunction.apply source.parsed.node s).2

/-- The calls that evaluating the texts makes, in order. -/
def traceAll : List ScriptSource → Session StandardFunction →
    List (Invocation (Session StandardFunction))
  | [], _ => []
  | source :: sources, s =>
      source.parsed.node.trace callStandard s ++
        traceAll sources (Session.eval StandardFunction.apply source.parsed.node s).2

/-- The calls are made one after the other. -/
theorem chained_traceAll (sources : List ScriptSource) (s : Session StandardFunction) :
    Chained callStandard s (traceAll sources s) (evalAll sources s) := by
  induction sources generalizing s with
  | nil => rfl
  | cons source sources ih =>
    have hfirst := (source.parsed.node.follows_trace callStandard s).chained
    rw [← Session.eval_snd] at hfirst
    exact hfirst.append (ih _)

/-- Evaluating texts one after the other keeps everything ground. -/
theorem recordsGround_evalAll (sources : List ScriptSource) {s : Session StandardFunction}
    (hground : s.IsGround) (hstandard : s.env.HasStandardFunctions) :
    RecordsGround (evalAll sources s, traceAll sources s) := by
  induction sources generalizing s with
  | nil => exact ⟨hground, hstandard, nofun⟩
  | cons source sources ih =>
    obtain ⟨hsession, hfunctions, htrace⟩ :=
      recordsGround_eval source.name source.text.toList hground hstandard
    obtain ⟨hsession', hfunctions', htrace'⟩ := ih hsession hfunctions
    exact ⟨hsession', hfunctions', List.forall_mem_append.mpr ⟨htrace, htrace'⟩⟩

end ScriptSource

/-- References and comments never get into the data. Where the standard functions are all there is
at first, and any texts are evaluated one after the other, the variables are ground before and
behind every call and in the end, every call returns a ground value, and every function but `get`
and `set` receives ground values. -/
theorem evaluation_keeps_data_ground (sources : List ScriptSource) (journal : List Event) :
    let s : Session StandardFunction := ⟨StandardFunction.environment, journal⟩
    Chained callStandard s (ScriptSource.traceAll sources s) (ScriptSource.evalAll sources s) ∧
    (ScriptSource.evalAll sources s).env.HoldsGround ∧
    ∀ invocation ∈ ScriptSource.traceAll sources s,
      invocation.before.env.HoldsGround ∧ invocation.after.env.HoldsGround ∧
      invocation.value.IsGround ∧
      ∀ function : StandardFunction, function ≠ .get → function ≠ .set →
        invocation.name = function.name →
          (∀ v ∈ (invocation.before.resolveAll invocation.arguments).1, v.IsGround) ∧
          invocation.value =
            (function.reply (invocation.before.resolveAll invocation.arguments).1).value := by
  intro s
  have hground : s.IsGround := ⟨nofun, rfl⟩
  have hstandard : s.env.HasStandardFunctions := fun _ => rfl
  obtain ⟨hsession, -, htrace⟩ := ScriptSource.recordsGround_evalAll sources hground hstandard
  refine ⟨ScriptSource.chained_traceAll sources s, hsession.vars, ?_⟩
  intro invocation hmem
  obtain ⟨hbefore, hafter, hvalue, hreceived⟩ := htrace invocation hmem
  exact ⟨hbefore, hafter, hvalue, hreceived⟩

end CallScript
