import CallScript.Eval.Environment
import CallScript.Pattern.Reader
import CallScript.Standard.Format
import CallScript.Standard.Sum

/-!
# The standard functions

A host may register these functions, all or some of them, and under other names. All but two of
them see the values of their arguments; `get` and `set` take a name, which may be bare or quoted.
-/

namespace CallScript

/-- The standard functions. -/
inductive StandardFunction where
  | nil
  | print
  | printf
  | sprintf
  | list
  | map
  | get
  | set
  | sum
  | concat
  | len
  | type
  | json
  | matches
  deriving Repr, DecidableEq

namespace StandardFunction

open Standard (Fault)

/-- All standard functions. -/
def all : List StandardFunction :=
  [.nil, .print, .printf, .sprintf, .list, .map, .get, .set, .sum, .concat, .len, .type, .json,
    .matches]

/-- The name under which a function is registered. -/
def name : StandardFunction → String
  | .nil => "nil"
  | .print => "print"
  | .printf => "printf"
  | .sprintf => "sprintf"
  | .list => "list"
  | .map => "map"
  | .get => "get"
  | .set => "set"
  | .sum => "sum"
  | .concat => "concat"
  | .len => "len"
  | .type => "type"
  | .json => "json"
  | .matches => "matches"

/-- The error value of a complaint. -/
def complain (function : StandardFunction) (fault : Fault) : Value :=
  .error ("@" ++ function.name ++ ": " ++ fault.message)

/-- The value of a result, with a complaint as an error value. -/
def orComplain (function : StandardFunction) : Except Fault Value → Value
  | .ok value => value
  | .error fault => function.complain fault

/-- The map of keys and values that alternate. -/
def pairs (known : Dict Value) : List Value → Except Fault Value
  | .string key :: value :: rest => pairs (known.insert key value) rest
  | key :: _ :: _ => .error (.keyNotString key.typeName)
  | _ => .ok (.map known)

/-- A map from string keys. -/
def mapOf (values : List Value) : Except Fault Value :=
  if values.length % 2 = 0 then pairs [] values else .error .oddArguments

/-- The length of a string in characters, of a list or of a map. -/
def lengthOf : List Value → Except Fault Value
  | [.string s] => .ok (.int (Int64.ofNat s.length))
  | [.list items] => .ok (.int (Int64.ofNat items.length))
  | [.map entries] => .ok (.int (Int64.ofNat entries.length))
  | [value] => .error (.noLength value.typeName)
  | _ => .error .expectsOne

/-- The name of the type of a value. -/
def typeOf : List Value → Except Fault Value
  | [value] => .ok (.string value.typeName)
  | _ => .error .expectsOne

/-- The value of a document given as bytes. -/
def decodeBytes (raw : List UInt8) : Except Fault Value :=
  (Value.decode raw).mapError fun fault => .invalidJson (fault.message raw)

/-- The value of a document. -/
def decodeOf : List Value → Except Fault Value
  | [.json raw] => decodeBytes raw
  | [.string text] => decodeBytes (Text.Utf8.encode text.toList)
  | [value] => .error (.notDecodable value.typeName)
  | _ => .error .expectsOne

/-- Whether a text matches a pattern, as one or zero; what is no text matches nothing. -/
def matchOf : List Value → Except Fault Value
  | [subject, .string pattern] =>
      match Pattern.read pattern.toList with
      | .error fault => .error (.invalidPattern (fault.message pattern.toList))
      | .ok p =>
          match subject with
          | .string text => .ok (.int (if p.isMatch text.toList then 1 else 0))
          | _ => .ok (.int 0)
  | _ => .error .expectsPattern

/-- What a function answers to the values of its arguments: a value, and text for the output. -/
structure Reply where
  value : Value := .nil
  printed : Option String := none

/-- The answer to the values of arguments. -/
def reply (function : StandardFunction) (values : List Value) : Reply :=
  match function with
  | .nil | .get | .set => {}
  | .print => { printed := some (" ".intercalate (values.map Value.plainText) ++ "\n") }
  | .printf =>
      match Standard.format values with
      | .ok text => { printed := some text }
      | .error fault => { value := complain .sprintf fault }
  | .sprintf => { value := function.orComplain ((Standard.format values).map .string) }
  | .list => { value := .list values }
  | .map => { value := function.orComplain (mapOf values) }
  | .sum => { value := function.orComplain (Standard.sum values) }
  | .concat => { value := .string (String.join (values.map Value.plainText)) }
  | .len => { value := function.orComplain (lengthOf values) }
  | .type => { value := function.orComplain (typeOf values) }
  | .json => { value := function.orComplain (decodeOf values) }
  | .matches => { value := function.orComplain (matchOf values) }

/-- The field that a name argument stands for. -/
def target? : Value → Option FieldPath
  | .fieldName field => some field
  | .string text => some (FieldPath.parse text.toList)
  | _ => none

variable {F : Type}

/-- The value of the field that the argument names. -/
def applyGet (arguments : List Value) (s : Session F) : Value × Session F :=
  match arguments with
  | [name] =>
      match target? name with
      | some field => s.resolveField field
      | none => (complain .get (.notName name.typeName), s)
  | _ => (complain .get .expectsName, s)

/-- Stores the value of the second argument as the variable that the first one names, under the
name's written form. -/
def applySet (arguments : List Value) (s : Session F) : Value × Session F :=
  match arguments with
  | [name, value] =>
      match target? name with
      | some field =>
          let (value, s) := s.resolve value
          (value, s.update (·.setVar (String.ofList field.text) value))
      | none => (complain .set (.notName name.typeName), s)
  | _ => (complain .set .expectsNameAndValue, s)

/-- Calls a standard function in a session, whatever other functions the host has. -/
def apply (function : StandardFunction) (arguments : List Value) (s : Session F) :
    Value × Session F :=
  match function with
  | .get => applyGet arguments s
  | .set => applySet arguments s
  | function =>
      let (values, s) := s.resolveAll arguments
      let answer := function.reply values
      match answer.printed with
      | some text => (answer.value, s.record (.printed text))
      | none => (answer.value, s)

/-- Registers all standard functions, each as the host's function `embed` makes of it. -/
def registerAll (embed : StandardFunction → F) (env : Environment F) : Environment F :=
  all.foldl (fun env function => env.register function.name (embed function)) env

/-- An environment with the standard functions and nothing else. -/
def environment : Environment StandardFunction :=
  registerAll id {}

end StandardFunction

end CallScript
