import CallScript.Text.Split

/-!
# Field paths

A path such as `order.items[1].name` names a place inside nested values. It is kept as the parts
between its points; an index in brackets stays with its part. The keys of a path are the names and
indices in the order in which a value is entered.
-/

namespace CallScript

open CallScript.Text

/-- A path, kept as the parts between its points. -/
structure FieldPath where
  segments : List String
  deriving Repr, DecidableEq

namespace FieldPath

/-- The path written as `text`. -/
def parse (text : List Char) : FieldPath :=
  ⟨(splitAtEvery '.' text).map String.ofList⟩

/-- The written form of a path. -/
def text (path : FieldPath) : List Char :=
  joinWith '.' (path.segments.map String.toList)

/-- Writing undoes parsing. -/
@[simp] theorem text_parse (written : List Char) : (parse written).text = written := by
  simp [text, parse, Function.comp_def, joinWith_splitAtEvery]

/-- A text without the closing brackets at its end. -/
def trimClosing (index : List Char) : List Char :=
  (index.reverse.dropWhile (· == ']')).reverse

/-- The name of a segment, if it has one, and its indices. -/
def segmentKeys (segment : List Char) : List (List Char) :=
  match splitAtEvery '[' segment with
  | [] => []
  | name :: indices => (if name.isEmpty then [] else [name]) ++ indices.map trimClosing

/-- The names and indices of a path in order. -/
def keys (path : FieldPath) : List String :=
  (path.segments.flatMap fun segment => segmentKeys segment.toList).map String.ofList

end FieldPath

end CallScript
