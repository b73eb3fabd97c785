import CallScript.Pattern.Escape

/-!
# Bracketed sets

A set in brackets lists characters, ranges, named sets and nested sets; sets listed before and
after an operator are combined. Where case does not matter every operand and every set is closed
under case variants before it is combined or complemented.
-/

namespace CallScript.Pattern

/-- The operators between sets. -/
inductive SetOp where
  | inter
  | diff
  | symDiff
  deriving Repr, DecidableEq

/-- Combines two sets. -/
def SetOp.apply : SetOp → CharSet → CharSet → CharSet
  | .inter => .inter
  | .diff => .diff
  | .symDiff => .symDiff

/-- A bracket that is still open: its span up to its first member, whether it is complemented, the
operand before the last operator, and the members since. -/
structure Bracket where
  span : Span
  negated : Bool
  operand : Option (CharSet × SetOp) := none
  members : List CharSet := []

namespace Bracket

/-- The set with one more member. -/
def push (b : Bracket) (member : CharSet) : Bracket :=
  { b with members := b.members ++ [member] }

/-- Closes a set under case variants where case does not matter. -/
def fold (flags : Flags) (set : CharSet) : CharSet :=
  if flags.insensitive then .folded set else set

/-- What has been listed so far. -/
def content (flags : Flags) (b : Bracket) : CharSet :=
  let members := CharSet.unionAll b.members
  match b.operand with
  | none => members
  | some (left, op) => op.apply (fold flags left) (fold flags members)

/-- The bracket after an operator. -/
def operator (flags : Flags) (op : SetOp) (b : Bracket) : Bracket :=
  { b with operand := some (b.content flags, op), members := [] }

/-- The set of a closed bracket. -/
def close (flags : Flags) (b : Bracket) : CharSet :=
  let set := fold flags (b.content flags)
  if b.negated then .compl set else set

/-- Takes the hyphens at the start of a bracket as members. -/
def leadingHyphens (x : Bool) (start : Place) : Nat → List CharSet → Input →
    Except Fault (List CharSet × Input)
  | 0, members, i => .ok (members, i)
  | fuel + 1, members, i =>
      if i.isAt '-' then
        let i := i.next x
        if i.atEnd then fail .classUnclosed ⟨start, start⟩
        else leadingHyphens x start fuel (members ++ [.char '-']) i
      else .ok (members, i)

/-- Opens a bracket. A closing bracket right at its start is a member. -/
def opening (x : Bool) (i : Input) : Except Fault (Bracket × Input) := do
  let start := i.place
  let i := i.next x
  if i.atEnd then fail .classUnclosed (i.since start)
  else
    let negated := i.isAt '^'
    let i := if negated then i.next x else i
    if i.atEnd then fail .classUnclosed (i.since start)
    else
      let (members, i) ← leadingHyphens x start i.rest.length [] i
      if members.isEmpty && i.isAt ']' then
        let i := i.next x
        if i.atEnd then fail .classUnclosed (i.since start)
        else .ok ({ span := i.since start, negated, members := [.char ']'] }, i)
      else .ok ({ span := i.since start, negated, members }, i)

/-- Reads a named ASCII set from its opening bracket, if one stands there. -/
def asciiSet? (i : Input) : Option (CharSet × Input) := do
  let i ← i.after? "[:"
  let negated := i.isAt '^'
  let i := if negated then i.bump else i
  let name := i.rest.takeWhile (· != ':')
  let i ← (i.bumps name.length).after? ":]"
  let set ← CharSet.asciiClass? (String.ofList name)
  some (if negated then .compl set else set, i)

/-- Reads a character or an escape. -/
def item (flags : Flags) (i : Input) : Except Fault (Part × Input) :=
  match i.head? with
  | some '\\' => escape flags i
  | some c => .ok ({ primitive := .literal c, span := i.one }, i.bump)
  | none => fail .escapeEnd i.here

/-- A part as a member of a set. -/
def member (part : Part) : Except Fault CharSet :=
  match part.primitive with
  | .literal c => .ok (.char c)
  | .set s => .ok s
  | .look _ => fail .classEscape part.span

/-- A part as the end of a range. -/
def rangeEnd (part : Part) : Except Fault Char :=
  match part.primitive with
  | .literal c => .ok c
  | _ => fail .classRangeEnd part.span

/-- Reads a member or a range; `unclosed` is the span to blame if the pattern ends. Gives the set
and the first fault that waits for the end of the pattern. -/
def range (flags : Flags) (unclosed : Span) (i : Input) :
    Except Fault (CharSet × Option Fault × Input) := do
  let x := flags.extended
  let (first, i) ← item flags i
  let i := i.skip x
  if i.atEnd then fail .classUnclosed unclosed
  else if !i.isAt '-' || i.secondPart? x == some ']' || i.secondPart? x == some '-' then
    let set ← member first
    .ok (set, first.late, i)
  else
    let i := i.next x
    if i.atEnd then fail .classUnclosed unclosed
    else
      let (second, i) ← item flags i
      let low ← rangeEnd first
      let high ← rangeEnd second
      if high < low then fail .classRangeOrder ⟨first.span.first, second.span.last⟩
      else .ok (.range low.toNat high.toNat, none, i)

/-- Reads up to the bracket that closes the outermost one. Each step takes at least one character,
so the length of the rest is enough for `fuel`. -/
def read (flags : Flags) : Nat → Bracket → List Bracket → Option Fault → Input →
    Except Fault (CharSet × Option Fault × Input)
  | 0, b, _, _, _ => fail .classUnclosed b.span
  | fuel + 1, b, outer, late, i => do
      let i := i.skip flags.extended
      match i.head?, i.second? with
      | none, _ => fail .classUnclosed b.span
      | some '[', _ =>
          match asciiSet? i with
          | some (set, i) => read flags fuel (b.push set) outer late i
          | none =>
              let (inner, i) ← opening flags.extended i
              read flags fuel inner (b :: outer) late i
      | some ']', _ =>
          let set := b.close flags
          match outer with
          | [] => .ok (set, late, i.bump)
          | around :: outer => read flags fuel (around.push set) outer late i.bump
      | some '&', some '&' => read flags fuel (b.operator flags .inter) outer late (i.bumps 2)
      | some '-', some '-' => read flags fuel (b.operator flags .diff) outer late (i.bumps 2)
      | some '~', some '~' => read flags fuel (b.operator flags .symDiff) outer late (i.bumps 2)
      | some _, _ =>
          let (set, found, i) ← range flags b.span i
          read flags fuel (b.push set) outer (late.or found) i

end Bracket

/-- Reads a set in brackets from its opening bracket. -/
def bracketed (flags : Flags) (i : Input) : Except Fault (CharSet × Option Fault × Input) := do
  let (b, i) ← Bracket.opening flags.extended i
  Bracket.read flags (i.rest.length + 1) b [] none i

end CallScript.Pattern
