import CallScript.Value.Basic

/-!
# Complaints of the standard functions

The reasons for which a standard function gives an error, with their wording.
-/

namespace CallScript.Standard

/-- Why a standard function gives an error. Types are named as `Value.typeName` names them. -/
inductive Fault where
  | missingFormat
  | formatNotString (type : String)
  | unknownVerb (verb : Char)
  | loneVerb
  | missingArgument (verb : Char)
  | verbExpectsNumber (type : String)
  | oddArguments
  | keyNotString (type : String)
  | expectsName
  | notName (type : String)
  | expectsNameAndValue
  | overflow
  | notNumber (type : String)
  | noLength (type : String)
  | expectsOne
  | notDecodable (type : String)
  | invalidJson (reason : String)
  | expectsPattern
  | invalidPattern (reason : String)
  deriving Repr, DecidableEq

/-- The wording of a complaint. -/
def Fault.message : Fault → String
  | .missingFormat => "missing format string"
  | .formatNotString type => "format must be a string, got " ++ type
  | .unknownVerb verb => "unknown verb %" ++ String.singleton verb
  | .loneVerb => "format ends with a lone %"
  | .missingArgument verb => "missing argument for %" ++ String.singleton verb
  | .verbExpectsNumber type => "%d expects a number, got " ++ type
  | .oddArguments => "expects key/value pairs"
  | .keyNotString type => "keys must be strings, got " ++ type
  | .expectsName => "expects one name argument"
  | .notName type => "expects a name, got " ++ type
  | .expectsNameAndValue => "expects a name and a value"
  | .overflow => "integer overflow"
  | .notNumber type => "expects numbers, got " ++ type
  | .noLength type => "no length for " ++ type
  | .expectsOne => "expects one argument"
  | .notDecodable type => "cannot decode " ++ type
  | .invalidJson reason => reason
  | .expectsPattern => "expects a value and a string pattern"
  | .invalidPattern reason => "invalid regex: " ++ reason

end CallScript.Standard
