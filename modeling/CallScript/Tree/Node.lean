import CallScript.Source.Token

/-!
# Syntax trees

A script is a tree of nodes: the root holds comments and calls, a call holds its arguments, and an
argument is a literal, a field or a nested call. What could not be read is an error node in its
place. Hosts may build trees of any other shape.
-/

namespace CallScript

/-- The kinds of nodes. -/
inductive NodeKind where
  /-- text that could not be read -/
  | error
  /-- an argument of a call -/
  | argument
  /-- a group of statements -/
  | statement
  /-- the root of a script -/
  | script
  | call
  | comment
  deriving Repr, DecidableEq

/-- The letter that stands for a kind. -/
def NodeKind.code : NodeKind → Char
  | .error => 'E'
  | .argument => 'A'
  | .statement => 'S'
  | .script => 'T'
  | .call => 'C'
  | .comment => '#'

/-- A node: its kind, the token it comes from if there is one, and its children. -/
inductive Node where
  | mk (kind : NodeKind) (token : Option Token) (children : List Node)

namespace Node

instance : Inhabited Node := ⟨.mk .script none []⟩

/-- The kind of a node. -/
def kind : Node → NodeKind
  | .mk kind _ _ => kind

/-- The token of a node. -/
def token : Node → Option Token
  | .mk _ token _ => token

/-- The children of a node. -/
def children : Node → List Node
  | .mk _ _ children => children

/-- A node without children. -/
def leaf (kind : NodeKind) (token : Token) : Node :=
  .mk kind (some token) []

/-- A script of the given statements. -/
def script (statements : List Node) : Node :=
  .mk .script none statements

/-- A group of statements. -/
def group (statements : List Node) : Node :=
  .mk .statement none statements

/-- A call in the place of an argument. -/
def nested (call : Node) : Node :=
  .mk .argument none [call]

/-- The value of a node's token. -/
def value (node : Node) : Value :=
  match node.token with
  | some token => token.value
  | none => .nil

/-- Whether a node stands for text that could not be read. -/
def isError (node : Node) : Bool :=
  node.kind == .error

mutual

/-- The first error node, parents before their children and children in order. -/
def findError? : Node → Option Node
  | .mk kind token children =>
      if kind = .error then some (.mk kind token children) else findErrorIn? children

/-- The first error node in a row of trees. -/
def findErrorIn? : List Node → Option Node
  | [] => none
  | node :: nodes => (findError? node).or (findErrorIn? nodes)

end

mutual

/-- A tree in parentheses: the letter of the kind, the value of the token, and the children. -/
def describeText : Node → List Char
  | .mk kind token children =>
      '(' :: kind.code :: ' ' :: '(' ::
        ((match token with
          | some token => token.value.text
          | none => []) ++ ')' :: (describeChildren children ++ [')']))

/-- The children of a node, each after a blank. -/
def describeChildren : List Node → List Char
  | [] => []
  | node :: nodes => ' ' :: (describeText node ++ describeChildren nodes)

end

/-- A tree in parentheses as a string. -/
def describe (node : Node) : String :=
  String.ofList node.describeText

end Node

end CallScript
