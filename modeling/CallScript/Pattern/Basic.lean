import CallScript.Pattern.CharSet

/-!
# Patterns and what they match

A pattern describes texts together with what stands around them. Whether it matches somewhere in a
text is decided from left to right: the set of patterns that the rest of the text may still match
is carried along, and each character turns it into the next one. Equal patterns are kept once, so
the work for one character is bounded.
-/

namespace CallScript.Pattern

/-- A condition on the characters before and after a place. -/
inductive Look where
  | textStart
  | textEnd
  /-- the start of a line; with `crlf` both line breaks and their pair end a line -/
  | lineStart (crlf : Bool)
  | lineEnd (crlf : Bool)
  /-- a word on exactly one side -/
  | boundary (unicode : Bool)
  | notBoundary (unicode : Bool)
  | wordStart (unicode : Bool)
  | wordEnd (unicode : Bool)
  /-- no word before -/
  | wordStartHalf (unicode : Bool)
  /-- no word after -/
  | wordEndHalf (unicode : Bool)
  deriving Repr, DecidableEq

/-- The characters on both sides of a place. -/
structure Around where
  before : Option Char
  after : Option Char

/-- Whether a character is part of a word. -/
def isWord (unicode : Bool) (c : Option Char) : Bool :=
  match c with
  | none => false
  | some c => if unicode then isWordCode c.toNat else c.isAlphanum || c == '_'

/-- Whether a condition holds at a place. -/
def Look.holds (look : Look) (a : Around) : Bool :=
  match look with
  | .textStart => a.before.isNone
  | .textEnd => a.after.isNone
  | .lineStart false => a.before.isNone || a.before == some '\n'
  | .lineEnd false => a.after.isNone || a.after == some '\n'
  | .lineStart true =>
      a.before.isNone || a.before == some '\n' || (a.before == some '\r' && a.after != some '\n')
  | .lineEnd true =>
      a.after.isNone || a.after == some '\r' || (a.after == some '\n' && a.before != some '\r')
  | .boundary u => isWord u a.before != isWord u a.after
  | .notBoundary u => isWord u a.before == isWord u a.after
  | .wordStart u => !isWord u a.before && isWord u a.after
  | .wordEnd u => isWord u a.before && !isWord u a.after
  | .wordStartHalf u => !isWord u a.before
  | .wordEndHalf u => !isWord u a.after

end CallScript.Pattern

namespace CallScript

/-- A pattern. -/
inductive Pattern where
  /-- the empty text -/
  | empty
  /-- one character of a set -/
  | one (set : Pattern.CharSet)
  /-- the empty text where a condition holds -/
  | look (look : Pattern.Look)
  | seq (p q : Pattern)
  | alt (p q : Pattern)
  /-- at least `least` and at most `most` times in a row -/
  | times (p : Pattern) (least : Nat) (most : Option Nat)
  deriving Repr, DecidableEq

namespace Pattern

/-- Whether a pattern matches the empty text at a place. -/
def nullable (a : Around) : Pattern → Bool
  | .empty => true
  | .one _ => false
  | .look l => l.holds a
  | .seq p q => p.nullable a && q.nullable a
  | .alt p q => p.nullable a || q.nullable a
  | .times p least _ => least == 0 || p.nullable a

/-- A pattern after another; the empty one is left out. -/
def followedBy (p q : Pattern) : Pattern :=
  match p with
  | .empty => q
  | p => .seq p q

/-- What a pattern may still have to match after the character that stands at a place. A repeated
pattern that matches the empty text there has any number of its repetitions behind it. -/
def after (a : Around) (c : Char) : Pattern → List Pattern
  | .empty => []
  | .one set => if set.contains c.toNat then [.empty] else []
  | .look _ => []
  | .seq p q =>
      (p.after a c).map (·.followedBy q) ++ if p.nullable a then q.after a c else []
  | .alt p q => p.after a c ++ q.after a c
  | .times p least most =>
      if most == some 0 then []
      else
        let left := if p.nullable a then 0 else least - 1
        (p.after a c).map (·.followedBy (.times p left (most.map (· - 1))))

/-- The members of a list, each once. -/
def distinct (ps : List Pattern) : List Pattern :=
  ps.foldl (fun known p => if known.contains p then known else p :: known) []

/-- Whether the rest of a text matches one of `active` from here, or `p` from here or later. -/
def search (p : Pattern) : List Pattern → Option Char → List Char → Bool
  | active, before, [] => (p :: active).any (·.nullable ⟨before, none⟩)
  | active, before, c :: rest =>
      let active := distinct (p :: active)
      let a : Around := ⟨before, some c⟩
      active.any (·.nullable a) || search p (active.flatMap (·.after a c)) (some c) rest

/-- Whether a pattern matches somewhere in a text. -/
def isMatch (p : Pattern) (text : List Char) : Bool :=
  p.search [] none text

end Pattern

end CallScript
