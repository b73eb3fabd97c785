import CallScript.Eval.Environment
import CallScript.Tree.Node

/-!
# Evaluation

A tree is evaluated from left to right: the arguments of a call before the call, and each statement
before the next. Only an error node stops the evaluation; an error that a function returns is a
value like any other.
-/

namespace CallScript

/-- Why an evaluation has no value. -/
inductive EvalError where
  /-- the tree has an error node -/
  | malformed (message : String)
  /-- the value of the tree is an error that a function returned -/
  | host (message : String)
  deriving Repr, DecidableEq

/-- The wording of an evaluation's failure. -/
def EvalError.message : EvalError → String
  | .malformed message => message
  | .host message => message

namespace Node

variable {σ : Type}

mutual

/-- The value of a tree, or the message of the first error node, with the state after it. `call`
says what calling a function by name does to the state. -/
def eval (call : String → List Value → σ → Value × σ) : Node → σ → Except String Value × σ
  | .mk kind token children, s =>
      let node := Node.mk kind token []
      match kind with
      | .error => (.error node.value.render, s)
      | .comment => (.ok node.value, s)
      | .call =>
          match evalArguments call children s with
          | (.error message, s) => (.error message, s)
          | (.ok arguments, s) =>
              match node.value with
              | .funcName name =>
                  let (value, s) := call name arguments s
                  (.ok value, s)
              | _ => (.ok .nil, s)
      | .argument =>
          if children.isEmpty then (.ok node.value, s) else evalRow call .nil children s
      | .statement | .script => evalRow call .nil children s

/-- The value of the last tree of a row, or `result` if the row is empty. -/
def evalRow (call : String → List Value → σ → Value × σ) (result : Value) :
    List Node → σ → Except String Value × σ
  | [], s => (.ok result, s)
  | node :: nodes, s =>
      match eval call node s with
      | (.error message, s) => (.error message, s)
      | (.ok value, s) => evalRow call value nodes s

/-- The values of all trees of a row. -/
def evalArguments (call : String → List Value → σ → Value × σ) :
    List Node → σ → Except String (List Value) × σ
  | [], s => (.ok [], s)
  | node :: nodes, s =>
      match eval call node s with
      | (.error message, s) => (.error message, s)
      | (.ok value, s) =>
          match evalArguments call nodes s with
          | (.error message, s) => (.error message, s)
          | (.ok values, s) => (.ok (value :: values), s)

end

end Node

namespace Session

variable {F : Type}

/-- The value of a tree; an error node gives its message as an error value. -/
def eval (apply : F → List Value → Session F → Value × Session F) (node : Node) (s : Session F) :
    Value × Session F :=
  match node.eval (call apply) s with
  | (.ok value, s) => (value, s)
  | (.error message, s) => (.error message, s)

/-- The value of a tree, or why it has none: an error node, or an error as the value. -/
def tryEval (apply : F → List Value → Session F → Value × Session F) (node : Node) (s : Session F) :
    Except EvalError Value × Session F :=
  match node.eval (call apply) s with
  | (.ok (.error message), s) => (.error (.host message), s)
  | (.ok value, s) => (.ok value, s)
  | (.error message, s) => (.error (.malformed message), s)

end Session

end CallScript
