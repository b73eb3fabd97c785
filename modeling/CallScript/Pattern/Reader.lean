import CallScript.Pattern.Bracket
import CallScript.Text.CharClass

/-!
# Reading patterns

A pattern is read from left to right with the groups that are still open on a stack. Switches hold
up to the end of the group in which they are set. The first fault ends the reading; a property that
does not exist counts only if there is no other fault.
-/

namespace CallScript.Pattern

/-! ## Switches -/

/-- The letters of switches. -/
def flagLetters : List Char := ['i', 'm', 's', 'U', 'u', 'R', 'x']

/-- Sets one switch. The switch for the preference of repetitions has no effect on whether a
pattern matches. -/
def Flags.set (flags : Flags) (letter : Char) (on : Bool) : Flags :=
  match letter with
  | 'i' => { flags with insensitive := on }
  | 'm' => { flags with multiLine := on }
  | 's' => { flags with dotAll := on }
  | 'u' => { flags with unicode := on }
  | 'R' => { flags with crlf := on }
  | 'x' => { flags with extended := on }
  | _ => flags

/-- Sets switches: on, and after a minus sign off. -/
def Flags.setAll : Bool → Flags → List Char → Flags
  | _, flags, [] => flags
  | on, flags, c :: cs => if c = '-' then setAll false flags cs else setAll on (flags.set c on) cs

/-- Reads switches up to a colon or a closing parenthesis. `known` are the ones read so far with
their spans, a minus sign among them. -/
def readFlags : Nat → List (Char × Span) → Input → Except Fault (List (Char × Span) × Input)
  | 0, _, i => fail .flagEnd i.here
  | fuel + 1, known, i =>
      match i.head? with
      | none => fail .flagEnd i.here
      | some c =>
          if c = ':' ∨ c = ')' then
            match known.getLast? with
            | some ('-', span) => fail .flagDanglingNegation span
            | _ => .ok (known, i)
          else if c ≠ '-' ∧ c ∉ flagLetters then fail .flagUnknown i.one
          else match known.find? (·.1 == c) with
            | some (_, span) => .error
                { problem := if c = '-' then .flagRepeatedNegation else .flagDuplicate
                  span := i.one, other := some span }
            | none =>
                if i.bump.atEnd then fail .flagEnd i.bump.here
                else readFlags fuel (known ++ [(c, i.one)]) i.bump

/-! ## Groups -/

/-- Characters of group names. -/
def isGroupNameChar (first : Bool) (c : Char) : Bool :=
  c == '_' ||
    if first then Text.isAlphabetic c
    else Text.isAlphanumeric c || c == '.' || c == '[' || c == ']'

/-- Reads a group name up to its closing angle. -/
def groupName : Nat → List Char → Input → Except Fault (List Char × Input)
  | 0, _, i => fail .nameEnd i.here
  | fuel + 1, name, i =>
      match i.head? with
      | none => fail .nameEnd i.here
      | some c =>
          if c = '>' then .ok (name, i)
          else if isGroupNameChar name.isEmpty c then groupName fuel (name ++ [c]) i.bump
          else fail .nameCharacter i.one

/-- What a parenthesis begins. -/
inductive Opening where
  /-- switches for the rest of the group -/
  | switches (flags : Flags)
  /-- a group with its own switches, and with a name if it has one -/
  | group (flags : Flags) (name : Option (List Char × Span))

/-- Reads what an opening parenthesis begins, from that parenthesis. -/
def opening (flags : Flags) (i : Input) : Except Fault (Opening × Input) := do
  let paren := i.one
  let i := i.bump.skip flags.extended
  match ["?=", "?!", "?<=", "?<!"].findSome? i.after? with
  | some after => fail .lookAround ⟨paren.first, after.place⟩
  | none =>
      match (i.after? "?P<").or (i.after? "?<") with
      | some i =>
          let start := i.place
          let (name, i) ← groupName (i.rest.length + 1) [] i
          if name.isEmpty then fail .nameEmpty ⟨start, start⟩
          else .ok (.group flags (some (name, i.since start)), i.bump)
      | none =>
          match i.after? "?" with
          | none => .ok (.group flags none, i)
          | some after =>
              if after.atEnd then fail .groupUnclosed paren
              else
                let (letters, after) ← readFlags (after.rest.length + 1) [] after
                let inner := flags.setAll true (letters.map (·.1))
                if after.isAt ')' then
                  if letters.isEmpty then fail .nothingToRepeat i.here
                  else .ok (.switches inner, after.bump)
                else .ok (.group inner none, after.bump)

/-- A group that is still open: the span of its parenthesis, and the switches, alternatives and
parts of the text around it. -/
structure OpenGroup where
  span : Span
  flags : Flags
  alternatives : List Pattern
  parts : List (Option Pattern)

/-! ## The whole pattern -/

/-- The state of reading: the switches, the finished alternatives of the innermost group, the parts
of the current one with the last part first and `none` for switches, the open groups, the names of
groups, and the first fault that waits for the end. -/
structure ReadState where
  flags : Flags := {}
  alternatives : List Pattern := []
  parts : List (Option Pattern) := []
  groups : List OpenGroup := []
  names : List (List Char × Span) := []
  late : Option Fault := none

namespace ReadState

/-- Adds a part. -/
def push (s : ReadState) (p : Pattern) : ReadState :=
  { s with parts := some p :: s.parts }

/-- The parts of the current alternative in a row. -/
def current (s : ReadState) : Pattern :=
  (s.parts.filterMap id).foldl (fun rest p => if rest = .empty then p else .seq p rest) .empty

/-- The alternatives of the innermost group. -/
def innermost (s : ReadState) : Pattern :=
  s.alternatives.foldr .alt s.current

/-- Repeats the last part. The operator stands at `span`. -/
def repeatLast (s : ReadState) (least : Nat) (most : Option Nat) (span : Span) :
    Except Fault ReadState :=
  match s.parts with
  | some p :: parts => .ok { s with parts := some (.times p least most) :: parts }
  | _ => fail .nothingToRepeat span

/-- Opens a group or sets switches. -/
def openGroup (s : ReadState) (i : Input) : Except Fault (ReadState × Input) := do
  let paren := i.one
  let (opening, i) ← opening s.flags i
  match opening with
  | .switches flags => .ok ({ s with flags, parts := none :: s.parts }, i)
  | .group flags name =>
      let names ← match name with
        | none => .ok s.names
        | some (name, span) =>
            match s.names.find? (·.1 == name) with
            | some (_, other) => .error { problem := .nameDuplicate, span, other := some other }
            | none => .ok (s.names ++ [(name, span)])
      let group := { span := paren, flags := s.flags, alternatives := s.alternatives, parts := s.parts }
      .ok ({ s with flags, names, alternatives := [], parts := [], groups := group :: s.groups }, i)

/-- Closes the innermost group. -/
def closeGroup (s : ReadState) (i : Input) : Except Fault (ReadState × Input) :=
  match s.groups with
  | [] => fail .groupUnopened i.one
  | group :: groups =>
      .ok ({ s with
        flags := group.flags, alternatives := group.alternatives
        parts := some s.innermost :: group.parts, groups }, i.bump)

/-- Begins the next alternative. -/
def nextAlternative (s : ReadState) : ReadState :=
  { s with alternatives := s.alternatives ++ [s.current], parts := [] }

/-- Passes the mark of a reluctant repetition, which has no effect on whether a pattern matches. -/
def reluctant (i : Input) : Input :=
  if i.isAt '?' then i.bump else i

/-- Reads a repetition count from its opening brace. -/
def count (s : ReadState) (i : Input) : Except Fault (ReadState × Input) := do
  let x := s.flags.extended
  let start := i.place
  let _ ← s.repeatLast 0 none i.here
  let i := i.next x
  if i.atEnd then fail .countUnclosed (i.since start)
  else
    let (least, i) := i.decimal x
    if i.atEnd then fail .countUnclosed (i.since start)
    else
      let (least, most, i) ← (if i.isAt ',' then do
          let i := i.next x
          if i.atEnd then fail .countUnclosed (i.since start)
          else
            let least ← least
            if i.isAt '\x7d' then .ok (least, none, i)
            else
              let (most, i) := i.decimal x
              let most ← most
              .ok (least, some most, i)
        else do
          let least ← least
          .ok (least, some least, i) : Except Fault (Nat × Option Nat × Input))
      if !i.isAt '\x7d' then fail .countUnclosed (i.since start)
      else
        let i := reluctant (i.next x)
        if most.any (· < least) then fail .countOrder (i.since start)
        else
          let s ← s.repeatLast least most (i.since start)
          .ok (s, i)

/-- The pattern of one literal character. -/
def literal (flags : Flags) (c : Char) : Pattern :=
  .one (if flags.insensitive then .folded (.char c) else .char c)

/-- The pattern of a point: any character but a line break. -/
def dot (flags : Flags) : Pattern :=
  if flags.dotAll then .one (.range 0 0x10ffff)
  else if flags.crlf then .one (.compl (.union (.char '\r') (.char '\n')))
  else .one (.compl (.char '\n'))

/-- The pattern of a part. -/
def ofPart (flags : Flags) (part : Part) : Pattern :=
  match part.primitive with
  | .literal c => literal flags c
  | .set set => .one set
  | .look l => .look l

/-- Reads one part of a pattern that begins with `c`. -/
def step (s : ReadState) (c : Char) (i : Input) : Except Fault (ReadState × Input) := do
  match c with
  | '(' => s.openGroup i
  | ')' => s.closeGroup i
  | '|' => .ok (s.nextAlternative, i.bump)
  | '[' =>
      let (set, late, i) ← bracketed s.flags i
      .ok ({ s.push (.one set) with late := s.late.or late }, i)
  | '?' =>
      let s ← s.repeatLast 0 (some 1) i.here
      .ok (s, reluctant i.bump)
  | '*' =>
      let s ← s.repeatLast 0 none i.here
      .ok (s, reluctant i.bump)
  | '+' =>
      let s ← s.repeatLast 1 none i.here
      .ok (s, reluctant i.bump)
  | '\x7b' => s.count i
  | '\\' =>
      let (part, i) ← escape s.flags i
      .ok ({ s.push (ofPart s.flags part) with late := s.late.or part.late }, i)
  | '.' => .ok (s.push (dot s.flags), i.bump)
  | '^' =>
      .ok (s.push (.look (if s.flags.multiLine then .lineStart s.flags.crlf else .textStart)), i.bump)
  | '$' =>
      .ok (s.push (.look (if s.flags.multiLine then .lineEnd s.flags.crlf else .textEnd)), i.bump)
  | c => .ok (s.push (literal s.flags c), i.bump)

/-- The pattern at the end of its text. -/
def finish (s : ReadState) : Except Fault Pattern :=
  match s.groups, s.late with
  | group :: _, _ => fail .groupUnclosed group.span
  | [], some fault => .error fault
  | [], none => .ok s.innermost

/-- Reads part after part. Each takes at least one character, so one more than the length of the
text is enough for `fuel`. -/
def readAll : Nat → ReadState → Input → Except Fault Pattern
  | 0, s, _ => s.finish
  | fuel + 1, s, i =>
      let i := i.skip s.flags.extended
      match i.head? with
      | none => s.finish
      | some c => do
          let (s, i) ← s.step c i
          readAll fuel s i

end ReadState

end CallScript.Pattern

namespace CallScript

/-- The pattern written as `text`. -/
def Pattern.read (text : List Char) : Except Pattern.Fault Pattern :=
  Pattern.ReadState.readAll (text.length + 1) {} (.ofText text)

end CallScript
