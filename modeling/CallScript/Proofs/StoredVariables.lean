import CallScript.Proofs.CallTrace
import CallScript.Proofs.Reconstruction

/-!
# What scripts change

Of the standard functions only `set` changes the environment, and only if it is called with a name
and a value: it then gives the variable of the written name the value. So a script leaves functions
and resolvers as they are, removes no variable, and changes what a field finds only by storing a
variable under the first key of the field. The variable of a dotted name is another one than the
variable of its first part.
-/

namespace CallScript

/-! ## Environments that differ in some variables -/

namespace Environment

variable {F : Type} {names names' : String → Prop} {env env' env'' : Environment F}

/-- No variable is gone, and nothing but variables of the given names has changed. -/
structure AgreesBut (names : String → Prop) (env env' : Environment F) : Prop where
  functions_eq : env'.functions = env.functions
  resolvers_eq : env'.resolvers = env.resolvers
  isSome_var : ∀ name, (env.var? name).isSome → (env'.var? name).isSome
  var_eq : ∀ name, ¬ names name → env'.var? name = env.var? name

/-- Setting a variable changes no other. -/
theorem agreesBut_setVar (env : Environment F) (name : String) (value : Value) :
    AgreesBut (name = ·) env (env.setVar name value) where
  functions_eq := rfl
  resolvers_eq := rfl
  isSome_var := by
    intro other hother
    rw [var?_setVar]
    split
    · rfl
    · exact hother
  var_eq := fun other hother => by rw [var?_setVar, if_neg hother]

namespace AgreesBut

/-- An environment agrees with itself. -/
theorem refl (env : Environment F) : AgreesBut names env env where
  functions_eq := rfl
  resolvers_eq := rfl
  isSome_var := fun _ h => h
  var_eq := fun _ _ => rfl

/-- More variables may differ. -/
theorem mono (h : AgreesBut names env env') (hnames : ∀ name, names name → names' name) :
    AgreesBut names' env env' where
  functions_eq := h.functions_eq
  resolvers_eq := h.resolvers_eq
  isSome_var := h.isSome_var
  var_eq := fun name hname => h.var_eq name (mt (hnames name) hname)

/-- Changes one after the other. -/
theorem trans (h : AgreesBut names env env') (h' : AgreesBut names env' env'') :
    AgreesBut names env env'' where
  functions_eq := h'.functions_eq.trans h.functions_eq
  resolvers_eq := h'.resolvers_eq.trans h.resolvers_eq
  isSome_var := fun name hname => h'.isSome_var name (h.isSome_var name hname)
  var_eq := fun name hname => (h'.var_eq name hname).trans (h.var_eq name hname)

/-- A field finds the same unless the variable of its first key has changed. -/
theorem lookup_eq (h : AgreesBut names env env') {field : FieldPath}
    (hfield : ∀ name ∈ field.keys.head?, ¬ names name) : env'.lookup? field = env.lookup? field := by
  have hvariables : env'.inVariables? field = env.inVariables? field := by
    unfold inVariables?
    cases hkeys : field.keys with
    | nil => rfl
    | cons name keys =>
      have hname : ¬ names name := hfield name (by rw [hkeys]; rfl)
      dsimp only
      rw [h.var_eq name hname]
  rw [lookup?, lookup?, hvariables, h.resolvers_eq]

end AgreesBut

/-- The functions are the standard ones, each under its name, and no others. -/
def HasStandardFunctions (env : Environment StandardFunction) : Prop :=
  ∀ name, env.function? name = StandardFunction.environment.function? name

/-- Environments with the same functions have the standard ones both or neither. -/
theorem HasStandardFunctions.of_functions_eq {env env' : Environment StandardFunction}
    (h : env.HasStandardFunctions) (hfunctions : env'.functions = env.functions) :
    env'.HasStandardFunctions := by
  intro name
  rw [function?, hfunctions]
  exact h name

end Environment

namespace Session

variable {F : Type} {apply : F → List Value → Session F → Value × Session F} {s : Session F}
  {name : String}

/-- A function that is registered is applied, once the call is in the journal. -/
theorem call_of_some {function : F} (h : s.env.function? name = some function)
    (arguments : List Value) : call apply name arguments s =
      apply function arguments (s.record (.calling name arguments.length)) := by
  rw [call, h]

/-- A name without a function gives nothing. -/
theorem call_of_none (h : s.env.function? name = none) (arguments : List Value) :
    call apply name arguments s = (.nil, s.record (.unregistered name)) := by
  rw [call, h]

/-- The session behind an evaluation does not depend on how its result is returned. -/
theorem eval_snd (apply : F → List Value → Session F → Value × Session F) (node : Node)
    (s : Session F) : (eval apply node s).2 = (node.eval (call apply) s).2 := by
  rw [eval]
  rcases node.eval (call apply) s with ⟨message | value, s'⟩
  · rfl
  · rfl

/-- What a field resolves to is what it finds. -/
theorem resolveField_fst (s : Session F) (field : FieldPath) :
    (s.resolveField field).1 = (s.env.lookup? field).getD .nil := by
  rw [resolveField]
  cases s.env.lookup? field with
  | some value => rfl
  | none => rfl

end Session

/-! ## What one call changes -/

/-- The key of a value stands in the dictionary with it. -/
theorem Dict.mem_of_get? {α : Type} {d : Dict α} {key : String} {value : α}
    (h : d.get? key = some value) : (key, value) ∈ d := by
  induction d with
  | nil => cases h
  | cons entry rest ih =>
    obtain ⟨k, v⟩ := entry
    rw [get?] at h
    split at h
    · next hkey =>
      obtain rfl := Option.some.inj h
      exact hkey ▸ List.mem_cons_self
    · exact List.mem_cons_of_mem _ (ih h)

namespace StandardFunction

variable {F : Type}

/-- A standard function is registered under its name only. -/
theorem eq_name_of_function? {name : String} {function : StandardFunction}
    (h : environment.function? name = some function) : name = function.name := by
  have hnames : ∀ entry ∈ environment.functions, entry.1 = entry.2.name := by decide
  exact hnames _ (Dict.mem_of_get? h)

/-- Arguments with which `set` stores a value as the variable: a name of that written form, and
the value. -/
def Storing (arguments : List Value) (variableName : String) : Prop :=
  ∃ name value path, arguments = [name, value] ∧ target? name = some path ∧
    String.ofList path.text = variableName

/-- Without a name and a value `set` changes nothing. -/
theorem env_applySet_of_not_storing {arguments : List Value} (s : Session F)
    (h : ∀ variableName, ¬ Storing arguments variableName) :
    (applySet arguments s).2.env = s.env := by
  unfold applySet
  split
  · next name value =>
    cases htarget : target? name with
    | some path => exact absurd ⟨name, value, path, rfl, htarget, rfl⟩ (h _)
    | none => rfl
  · rfl

/-- With a name and a value `set` stores what it returns. -/
theorem env_applySet {name value : Value} {path : FieldPath} (h : target? name = some path)
    (s : Session F) :
    (applySet [name, value] s).2.env =
      s.env.setVar (String.ofList path.text) (applySet [name, value] s).1 := by
  simp only [applySet, h]
  change (s.resolve value).2.env.setVar _ _ = _
  rw [s.env_resolve]

/-- The value of a field does not change the environment. -/
theorem env_applyGet (arguments : List Value) (s : Session F) :
    (applyGet arguments s).2.env = s.env := by
  unfold applyGet
  split
  · split
    · exact s.env_resolveField _
    · rfl
  · rfl

/-- All functions but `set` leave the environment as it is. -/
theorem env_apply_of_ne {function : StandardFunction} (h : function ≠ .set)
    (arguments : List Value) (s : Session F) : (function.apply arguments s).2.env = s.env := by
  unfold apply
  split
  · exact env_applyGet arguments s
  · exact absurd rfl h
  · -- all others see the values of their arguments, and at most print
    dsimp only
    split
    · exact s.env_resolveAll arguments
    · exact s.env_resolveAll arguments

/-- What a standard function changes: nothing, or `set` stores a variable. -/
theorem agreesBut_apply (function : StandardFunction) (arguments : List Value) (s : Session F) :
    Environment.AgreesBut (fun x => function = .set ∧ Storing arguments x) s.env
      (function.apply arguments s).2.env := by
  by_cases hset : function = .set
  · subst hset
    change Environment.AgreesBut _ s.env (applySet arguments s).2.env
    by_cases hstoring : ∃ x, Storing arguments x
    · obtain ⟨_, name, value, path, rfl, htarget, -⟩ := hstoring
      rw [env_applySet htarget]
      refine (s.env.agreesBut_setVar _ _).mono fun x hx => ?_
      exact ⟨rfl, name, value, path, rfl, htarget, hx⟩
    · rw [env_applySet_of_not_storing s (not_exists.mp hstoring)]
      exact .refl _
  · rw [env_apply_of_ne hset]
    exact .refl _

end StandardFunction

section Calls

open Environment (AgreesBut)
open StandardFunction (Storing)

variable {s s' : Session StandardFunction}

/-- A call applies the standard function of its name, or there is none and it only is noted. -/
theorem callStandard_cases (hstandard : s.env.HasStandardFunctions) (name : String)
    (arguments : List Value) :
    (∃ function : StandardFunction, name = function.name ∧ callStandard name arguments s =
      function.apply arguments (s.record (.calling name arguments.length))) ∨
    callStandard name arguments s = (.nil, s.record (.unregistered name)) := by
  cases hfunction : s.env.function? name with
  | none => exact .inr (Session.call_of_none hfunction arguments)
  | some function =>
    have hname := StandardFunction.eq_name_of_function? ((hstandard name).symm.trans hfunction)
    exact .inl ⟨function, hname, Session.call_of_some hfunction arguments⟩

/-- What a call changes: nothing, or `set` stores a variable. -/
theorem agreesBut_callStandard (hstandard : s.env.HasStandardFunctions) (name : String)
    (arguments : List Value) :
    AgreesBut (fun x => name = "set" ∧ Storing arguments x) s.env
      (callStandard name arguments s).2.env := by
  obtain ⟨function, hname, hcall⟩ | hcall := callStandard_cases hstandard name arguments
  · rw [hcall]
    have happly := function.agreesBut_apply arguments (s.record (.calling name arguments.length))
    refine happly.mono fun x hx => ?_
    obtain ⟨rfl, hx⟩ := hx
    exact ⟨hname, hx⟩
  · rw [hcall]
    exact .refl _

/-- A call that is no `set`, or a `set` without a name and a value, changes nothing. -/
theorem env_callStandard (hstandard : s.env.HasStandardFunctions) {name : String}
    {arguments : List Value} (h : name = "set" → ∀ x, ¬ Storing arguments x) :
    (callStandard name arguments s).2.env = s.env := by
  obtain ⟨function, hname, hcall⟩ | hcall := callStandard_cases hstandard name arguments
  · rw [hcall]
    by_cases hset : function = .set
    · subst hset
      exact StandardFunction.env_applySet_of_not_storing
        (s.record (.calling name arguments.length)) (h hname)
    · exact StandardFunction.env_apply_of_ne hset arguments _
  · rw [hcall, Session.record]

/-! ## What an evaluation changes -/

/-- The call stores a value as the variable. -/
def Invocation.Stores {σ : Type} (invocation : Invocation σ) (variableName : String) : Prop :=
  invocation.name = "set" ∧ Storing invocation.arguments variableName

variable {trace : List (Invocation (Session StandardFunction))}

/-- Calls one after the other change nothing but the variables that some of them store. -/
theorem Chained.agreesBut (h : Chained callStandard s trace s')
    (hstandard : s.env.HasStandardFunctions) :
    AgreesBut (fun x => ∃ invocation ∈ trace, invocation.Stores x) s.env s'.env := by
  induction trace generalizing s with
  | nil =>
    obtain rfl : s' = s := h
    exact .refl _
  | cons invocation trace ih =>
    obtain ⟨-, hcall, hrest⟩ := h
    have hstep := agreesBut_callStandard hstandard invocation.name invocation.arguments
    rw [hcall] at hstep
    have hrun := ih hrest (hstandard.of_functions_eq hstep.functions_eq)
    refine (hstep.mono fun x hx => ?_).trans (hrun.mono fun x hx => ?_)
    · exact ⟨invocation, List.mem_cons_self, hx⟩
    · obtain ⟨other, hother, hx⟩ := hx
      exact ⟨other, List.mem_cons_of_mem _ hother, hx⟩

/-- Calls of which none stores a variable change nothing. -/
theorem Chained.env_eq (h : Chained callStandard s trace s')
    (hstandard : s.env.HasStandardFunctions)
    (hnone : ∀ invocation ∈ trace, invocation.name = "set" → ∀ x, ¬ Storing invocation.arguments x) :
    s'.env = s.env := by
  induction trace generalizing s with
  | nil =>
    obtain rfl : s' = s := h
    rfl
  | cons invocation trace ih =>
    obtain ⟨-, hcall, hrest⟩ := h
    obtain ⟨hfirst, hothers⟩ := List.forall_mem_cons.mp hnone
    have hstep := env_callStandard hstandard hfirst
    rw [hcall] at hstep
    have hstandard' := hstandard.of_functions_eq (congrArg Environment.functions hstep)
    exact (ih hrest hstandard' hothers).trans hstep

end Calls

/-- Scripts change nothing but the variables they set. Evaluating any tree where the functions are
the standard ones keeps functions and resolvers and removes no variable. A field resolves to the
same value as before, unless some `set` that was called had a name and a value and the name is
written as the first key of the field. A `set` that is refused changes nothing, and neither does a
tree in which no call names `set`. -/
theorem evaluation_changes_only_stored (node : Node) (s : Session StandardFunction)
    (hstandard : s.env.HasStandardFunctions) :
    let s' := (Session.eval StandardFunction.apply node s).2
    Chained callStandard s (node.trace callStandard s) s' ∧
    s'.env.functions = s.env.functions ∧ s'.env.resolvers = s.env.resolvers ∧
    (∀ name, (s.env.var? name).isSome → (s'.env.var? name).isSome) ∧
    (∀ field, (s'.resolveField field).1 = (s.resolveField field).1 ∨
      ∃ invocation ∈ node.trace callStandard s, invocation.name = "set" ∧
        ∃ name value path, invocation.arguments = [name, value] ∧
          StandardFunction.target? name = some path ∧
          field.keys.head? = some (String.ofList path.text)) ∧
    (∀ arguments, (arguments.length ≠ 2 ∨ ∃ name value, arguments = [name, value] ∧
        StandardFunction.target? name = none) →
      (callStandard "set" arguments s).2.env = s.env) ∧
    ((∀ n ∈ node.preorder, n.kind = .call → n.value ≠ .funcName "set") → s'.env = s.env) := by
  intro s'
  obtain ⟨-, hchained, hnodes⟩ := node.follows_trace callStandard s
  rw [← Session.eval_snd] at hchained
  have hagrees := hchained.agreesBut hstandard
  refine ⟨hchained, hagrees.functions_eq, hagrees.resolvers_eq, hagrees.isSome_var, ?_, ?_, ?_⟩
  · intro field
    by_cases hstored : ∃ x ∈ field.keys.head?, ∃ invocation ∈ node.trace callStandard s,
        invocation.Stores x
    · obtain ⟨x, hx, invocation, hmem, hname, name, value, path, harguments, htarget, rfl⟩ := hstored
      exact .inr ⟨invocation, hmem, hname, name, value, path, harguments, htarget, hx⟩
    · have hlookup := hagrees.lookup_eq fun x hx hstores => hstored ⟨x, hx, hstores⟩
      exact .inl (by rw [Session.resolveField_fst, Session.resolveField_fst, hlookup])
  · intro arguments hrefused
    refine env_callStandard hstandard fun _ x hstoring => ?_
    obtain ⟨name, value, path, rfl, htarget, -⟩ := hstoring
    rcases hrefused with hlength | ⟨name', value', heq, hnone⟩
    · exact hlength rfl
    · cases heq
      rw [htarget] at hnone
      cases hnone
  · intro hset
    refine hchained.env_eq hstandard fun invocation hmem hname => ?_
    obtain ⟨n, hn, hcall, hvalue⟩ := hnodes invocation hmem
    rw [hname] at hvalue
    exact absurd hvalue (hset n hn hcall)

/-- A script that stores a variable under a dotted name and then tries to store one without. -/
def Node.dottedSet : Node :=
  .script [named [.leaf .argument ⟨Position.start "t", .literal, .string "a.b"⟩,
      .leaf .argument ⟨Position.start "t", .literal, .int 1⟩],
    named [.leaf .argument ⟨Position.start "t", .literal, .int 1⟩]]
where
  named (arguments : List Node) : Node :=
    .mk .call (some ⟨Position.start "t", .func, .funcName "set"⟩) arguments

/-- The variable of the first part of the name stays as it was, and the second call changes
nothing. -/
theorem evaluation_changes_only_dotted :
    let s : Session StandardFunction := { env := StandardFunction.environment.setVar "a" (.int 7) }
    let s' := (Session.eval StandardFunction.apply Node.dottedSet s).2
    s.env.HasStandardFunctions ∧ s'.env.functions = s.env.functions ∧
    (s'.env.var? "a").isSome ∧ (s'.resolveField ⟨["a"]⟩).1 = (s.resolveField ⟨["a"]⟩).1 ∧
    (callStandard "set" [.int 1] s).2.env = s.env := by
  intro s s'
  have hstandard : s.env.HasStandardFunctions := fun _ => rfl
  obtain ⟨-, hfunctions, -, hvars, hfields, hrefused, -⟩ :=
    evaluation_changes_only_stored Node.dottedSet s hstandard
  refine ⟨hstandard, hfunctions, hvars "a" rfl, ?_, hrefused _ (.inl (by decide))⟩
  rcases hfields ⟨["a"]⟩ with hsame | ⟨invocation, hmem, -, name, value, path, harguments, htarget, hkey⟩
  · exact hsame
  · have htrace : (Node.dottedSet.trace callStandard s).map Invocation.arguments =
        [[.string "a.b", .int 1], [.int 1]] := rfl
    have harguments' := List.mem_map_of_mem (f := Invocation.arguments) hmem
    rw [htrace, harguments] at harguments'
    simp only [List.mem_cons, List.cons.injEq, List.not_mem_nil, or_false] at harguments'
    rcases harguments' with ⟨rfl, -⟩ | ⟨-, hlength⟩
    · cases htarget
      exact absurd hkey (by decide)
    · cases hlength

end CallScript
