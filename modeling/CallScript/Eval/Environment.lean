import CallScript.Value.Lookup

/-!
# Environments and sessions

An environment is what the host supplies to scripts: functions by name, variables by name, and
resolvers for fields that are no variables. What the functions are is the host's own affair: they
have a type of the host's choice, and the host says how one of them is called. A session is an
environment together with the journal of what happened in it.
-/

namespace CallScript

/-- Something that happens while a script runs. -/
inductive Event where
  /-- text written to the output -/
  | printed (text : String)
  /-- a registered function is called with so many arguments -/
  | calling (function : String) (arguments : Nat)
  /-- a function is called that is not registered -/
  | unregistered (function : String)
  /-- a field is asked for that has no value -/
  | unresolved (field : FieldPath)
  /-- a remark of the host -/
  | remark (text : String)
  deriving Repr, DecidableEq

/-- A way of giving values to fields; `none` leaves a field to the next resolver. -/
abbrev Resolver := FieldPath → Option Value

/-- What the host supplies: functions of type `F`, variables and resolvers. -/
structure Environment (F : Type) where
  functions : Dict F := []
  vars : Dict Value := []
  resolvers : List Resolver := []

namespace Environment

variable {F : Type}

/-- Registers a function under a name, in place of the one that had it. -/
def register (env : Environment F) (name : String) (function : F) : Environment F :=
  { env with functions := env.functions.insert name function }

/-- The function registered under a name. -/
def function? (env : Environment F) (name : String) : Option F :=
  env.functions.get? name

/-- Gives a variable a value. -/
def setVar (env : Environment F) (name : String) (value : Value) : Environment F :=
  { env with vars := env.vars.insert name value }

/-- The value of a variable. -/
def var? (env : Environment F) (name : String) : Option Value :=
  env.vars.get? name

/-- Adds a resolver behind those that are there. -/
def addResolver (env : Environment F) (resolver : Resolver) : Environment F :=
  { env with resolvers := env.resolvers ++ [resolver] }

/-- What a field finds among the variables: its first key names one, and the other keys enter its
value. -/
def inVariables? (env : Environment F) (field : FieldPath) : Option Value :=
  match field.keys with
  | [] => none
  | name :: keys => (env.var? name).bind (·.walk? keys)

/-- What a field finds: among the variables, else from the first resolver that knows it. -/
def lookup? (env : Environment F) (field : FieldPath) : Option Value :=
  (env.inVariables? field).or (env.resolvers.findSome? (· field))

/-- Setting a variable changes its value and no other. -/
theorem var?_setVar (env : Environment F) (name other : String) (value : Value) :
    (env.setVar name value).var? other =
      if name = other then some value else env.var? other :=
  Dict.get?_insert env.vars name other value

end Environment

/-- An environment and the journal of what happened in it, in order. -/
structure Session (F : Type) where
  env : Environment F
  journal : List Event := []

namespace Session

variable {F : Type}

/-- Adds an event to the journal. -/
def record (s : Session F) (event : Event) : Session F :=
  { s with journal := s.journal ++ [event] }

/-- Changes the environment. -/
def update (s : Session F) (change : Environment F → Environment F) : Session F :=
  { s with env := change s.env }

/-- The value of a field; a field without one is absent, and the journal says so. -/
def resolveField (s : Session F) (field : FieldPath) : Value × Session F :=
  match s.env.lookup? field with
  | some value => (value, s)
  | none => (.nil, s.record (.unresolved field))

/-- The value of an argument: a field stands for its value and anything else for itself. -/
def resolve (s : Session F) : Value → Value × Session F
  | .fieldName field => s.resolveField field
  | value => (value, s)

/-- The values of arguments from the first to the last. -/
def resolveAll (s : Session F) : List Value → List Value × Session F
  | [] => ([], s)
  | value :: values =>
      let (value, s) := s.resolve value
      let (values, s) := s.resolveAll values
      (value :: values, s)

/-- Calls the function of a name, where `apply` says how the host's functions are called. A name
without a function gives nothing. -/
def call (apply : F → List Value → Session F → Value × Session F) (name : String)
    (arguments : List Value) (s : Session F) : Value × Session F :=
  match s.env.function? name with
  | some function => apply function arguments (s.record (.calling name arguments.length))
  | none => (.nil, s.record (.unregistered name))

/-- The text written to the output. -/
def output (s : Session F) : String :=
  String.join (s.journal.filterMap fun
    | .printed text => some text
    | _ => none)

/-- Resolving changes nothing but the journal. -/
@[simp] theorem env_resolveField (s : Session F) (field : FieldPath) :
    (s.resolveField field).2.env = s.env := by
  unfold resolveField
  split <;> rfl

end Session

end CallScript
