import CallScript.Pattern.Basic
import CallScript.Pattern.Input

/-!
# Escapes in patterns

A backslash makes a literal of a character that has a meaning of its own, names a character by its
code, or stands before the letter of a set or condition.
-/

namespace CallScript.Pattern

/-- The switches of a pattern. -/
structure Flags where
  insensitive : Bool := false
  multiLine : Bool := false
  dotAll : Bool := false
  extended : Bool := false
  crlf : Bool := false
  unicode : Bool := true
  deriving Repr, DecidableEq

/-- The smallest parts of a pattern. -/
inductive Primitive where
  | literal (c : Char)
  | set (s : CharSet)
  | look (l : Look)

/-- A part with its span. A property that does not exist is only a fault once the whole pattern has
been read, and is kept until then. -/
structure Part where
  primitive : Primitive
  span : Span
  late : Option Fault := none

/-- Characters that have a meaning of their own. -/
def isMeta (c : Char) : Bool :=
  "\\.+*?()|[]\x7b\x7d^$#&-~".toList.contains c

/-- Characters that a backslash makes literal: ASCII, but neither letters nor digits nor angles. -/
def isEscapable (c : Char) : Bool :=
  isMeta c || (c.toNat < 128 && !c.isAlphanum && c != '<' && c != '>')

/-- The value of a hexadecimal digit. -/
def hexValue? (c : Char) : Option Nat :=
  if c.isDigit then some (c.toNat - 48)
  else if 'a' ≤ c ∧ c ≤ 'f' then some (c.toNat - 87)
  else if 'A' ≤ c ∧ c ≤ 'F' then some (c.toNat - 55)
  else none

/-- The character of a code in hexadecimal digits. -/
def hexChar? (digits : List Char) : Option Char :=
  let n := digits.foldl (fun n d => n * 16 + (hexValue? d).getD 0) 0
  if h : n.isValidChar then some (Char.ofNatAux n h) else none

/-- Reads a code of so many digits, of which `taken` have been read. -/
def hexDigits (x : Bool) : Nat → List Char → Place → Input → Except Fault (Char × Input)
  | 0, taken, start, i =>
      match hexChar? taken with
      | some c => .ok (c, i)
      | none => fail .hexNoCharacter (i.since start)
  | left + 1, taken, start, i =>
      match i.head? with
      | none => fail .escapeEnd i.here
      | some c =>
          if (hexValue? c).isNone then fail .hexDigit i.one
          else hexDigits x left (taken ++ [c]) start (i.next x)

/-- Reads a code between braces, from its opening brace. -/
def hexBrace (x : Bool) (i : Input) : Except Fault (Char × Input) :=
  let brace := i.place
  let start := i.bump.place
  let (digits, i) := Input.takeWhile x (fun c => (hexValue? c).isSome) i.rest.length (i.next x)
  match i.head? with
  | none => fail .escapeEnd (i.since brace)
  | some c =>
      if c ≠ '\x7d' then fail .hexDigit i.one
      else
        let span := i.since start
        let i := i.next x
        if digits.isEmpty then fail .hexEmpty (i.since brace)
        else match hexChar? digits with
          | some c => .ok (c, i)
          | none => fail .hexNoCharacter span

/-- Reads a code from the letter that says how many digits it has. -/
def hex (x : Bool) (letter : Char) (i : Input) : Except Fault (Char × Input) :=
  let count := if letter = 'x' then 2 else if letter = 'u' then 4 else 8
  let i := i.next x
  if i.atEnd then fail .escapeEnd i.here
  else if i.isAt '\x7b' then hexBrace x i
  else hexDigits x count [] i.place i

/-- The set of a property given by name, or by name and value. -/
def propertySet (name : List Char) (value : Option (List Char)) : Except Problem CharSet :=
  let name := Unicode.looseName name
  match value with
  | none =>
      if (Unicode.property? name).isSome then .ok (.property name) else .error .propertyUnknown
  | some value =>
      let value := Unicode.looseName value
      if name == "gc" || name == "generalcategory" then
        if (Unicode.category? value).isSome then .ok (.category value)
        else .error .propertyValueUnknown
      else if name == "sc" || name == "script" then
        if (Unicode.script? value).isSome then .ok (.script value)
        else .error .propertyValueUnknown
      else .error .propertyUnknown

/-- Divides a text at the first occurrence of a separator. -/
def cutAt? (sep : List Char) : List Char → Option (List Char × List Char)
  | [] => none
  | c :: rest =>
      if sep.isPrefixOf (c :: rest) then some ([], (c :: rest).drop sep.length)
      else (cutAt? sep rest).map fun (before, after) => (c :: before, after)

/-- The set that stands between the braces of a property. -/
def namedProperty (name : List Char) : Except Problem CharSet :=
  match cutAt? ['!', '='] name with
  | some (name, value) => (propertySet name (some value)).map .compl
  | none =>
      match (cutAt? [':'] name).or (cutAt? ['='] name) with
      | some (name, value) => propertySet name (some value)
      | none => propertySet name none

/-- Reads the name of a property from the letter before it; gives its set and the input after
it. -/
def property (x : Bool) (i : Input) : Except Fault (Except Problem CharSet × Input) :=
  let i := i.next x
  match i.head? with
  | none => fail .escapeEnd i.here
  | some '\x7b' =>
      let (name, i) := Input.takeWhile x (· != '\x7d') i.rest.length (i.next x)
      if i.atEnd then fail .escapeEnd i.here else .ok (namedProperty name, i.bump)
  | some '\\' => fail .unicodeClass i.one
  | some c => .ok (propertySet [c] none, i.next x)

/-- The set of digits, blanks or word characters. -/
def shorthandSet (unicode : Bool) (letter : Char) : CharSet :=
  let asciiSet (name : String) := (CharSet.asciiClass? name).getD .none
  if letter.toLower = 'd' then if unicode then .digit else asciiSet "digit"
  else if letter.toLower = 's' then if unicode then .space else asciiSet "space"
  else if unicode then .word else asciiSet "word"

/-- Reads the name of a special word boundary from its opening brace; gives nothing if what follows
can only be a repetition. `start` is the place of the backslash. -/
def specialBoundary (flags : Flags) (start : Place) (i : Input) :
    Except Fault (Option Look × Input) :=
  let isNameChar (c : Char) := c.isAlpha || c == '-'
  let brace := i
  let i := i.next flags.extended
  match i.head? with
  | none => fail .boundaryEnd (i.since start)
  | some c =>
      if !isNameChar c then .ok (none, brace)
      else
        let first := i.place
        let (name, i) := Input.takeWhile flags.extended isNameChar i.rest.length i
        if !i.isAt '\x7d' then fail .boundaryUnclosed (i.since brace.place)
        else
          let u := flags.unicode
          let found := match String.ofList name with
            | "start" => some (Look.wordStart u)
            | "end" => some (.wordEnd u)
            | "start-half" => some (.wordStartHalf u)
            | "end-half" => some (.wordEndHalf u)
            | _ => none
          match found with
          | some l => .ok (some l, i.bump)
          | none => fail .boundaryUnknown (i.since first)

/-- The characters that a letter after a backslash stands for. -/
def controlLetter? : Char → Option Char
  | 'a' => some (Char.ofNat 7)
  | 'f' => some (Char.ofNat 12)
  | 't' => some '\t'
  | 'n' => some '\n'
  | 'r' => some '\r'
  | 'v' => some (Char.ofNat 11)
  | _ => none

/-- The conditions that a letter after a backslash stands for. -/
def lookLetter? (unicode : Bool) : Char → Option Look
  | 'A' => some .textStart
  | 'z' => some .textEnd
  | 'B' => some (.notBoundary unicode)
  | '<' => some (.wordStart unicode)
  | '>' => some (.wordEnd unicode)
  | _ => none

/-- Reads an escape from its backslash. -/
def escape (flags : Flags) (i : Input) : Except Fault (Part × Input) := do
  let start := i.place
  let i := i.bump
  match i.head? with
  | none => fail .escapeEnd (i.since start)
  | some c =>
      if c.isDigit then fail .backreference (i.bump.since start)
      else if c = 'x' ∨ c = 'u' ∨ c = 'U' then
        let (c, i) ← hex flags.extended c i
        .ok ({ primitive := .literal c, span := i.since start }, i)
      else if c = 'p' ∨ c = 'P' then
        let (found, i) ← property flags.extended i
        let span := i.since start
        match found with
        | .error problem =>
            .ok ({ primitive := .set .none, span, late := some { problem, span } }, i)
        | .ok set =>
            let set := if flags.insensitive then .folded set else set
            .ok ({ primitive := .set (if c = 'P' then .compl set else set), span }, i)
      else if "dswDSW".toList.contains c then
        let set := shorthandSet flags.unicode c
        let i := i.bump
        .ok ({ primitive := .set (if c.isUpper then .compl set else set), span := i.since start }, i)
      else
        let i := i.bump
        let span := i.since start
        if isEscapable c then .ok ({ primitive := .literal c, span }, i)
        else if c = 'b' then
          if i.isAt '\x7b' then
            let (special, i) ← specialBoundary flags start i
            .ok ({ primitive := .look (special.getD (.boundary flags.unicode)), span := i.since start }, i)
          else .ok ({ primitive := .look (.boundary flags.unicode), span }, i)
        else match controlLetter? c, lookLetter? flags.unicode c with
          | some c, _ => .ok ({ primitive := .literal c, span }, i)
          | none, some l => .ok ({ primitive := .look l, span }, i)
          | none, none => fail .escapeUnknown span

end CallScript.Pattern
