import CallScript.Json.Reader
import CallScript.Source.Lexeme

/-!
# Braces in JSON documents

The slicer that cuts a JSON literal out of a script knows nothing of JSON: it counts braces, and
tells quoted text from the rest. Here it is a machine over marks, so that it can read bytes as well
as characters. Every reader of JSON, where it succeeds, takes bytes that lead the machine back to
where it stood: a whole value leaves the number of open braces as it was, and the members of an
object lead up to the brace that closes it.
-/

namespace CallScript

/-! ## The slicer as a machine -/

/-- What a character means to the slicer. -/
inductive BraceMark where
  | opening
  | closing
  | quote
  | backslash
  | other
  deriving Repr, DecidableEq

namespace BraceMark

/-- The mark of a byte. -/
def ofByte (b : UInt8) : BraceMark :=
  if b = Json.byte '\x7b' then .opening
  else if b = Json.byte '\x7d' then .closing
  else if b = Json.byte '"' then .quote
  else if b = Json.byte '\\' then .backslash
  else .other

/-- A byte of a class to which no mark belongs has none. -/
theorem ofByte_of_class (p : UInt8 → Bool) {b : UInt8} (h : p b = true)
    (hmarks : ([Json.byte '\x7b', Json.byte '\x7d', Json.byte '"', Json.byte '\\'].any p) = false) :
    ofByte b = .other := by
  have hne : ∀ m ∈ [Json.byte '\x7b', Json.byte '\x7d', Json.byte '"', Json.byte '\\'], b ≠ m := by
    intro m hm heq
    have hfalse := List.any_eq_false.mp hmarks m hm
    rw [← heq] at hfalse
    exact hfalse h
  unfold ofByte
  rw [if_neg (hne _ (by simp)), if_neg (hne _ (by simp)), if_neg (hne _ (by simp)),
    if_neg (hne _ (by simp))]

end BraceMark

/-- Where the slicer stands: how many braces are open besides the first, and whether in quotes. -/
structure BraceScan where
  depth : Nat
  state : Lexeme.BraceState
  deriving Repr, DecidableEq

namespace BraceScan

/-- The slicer outside of quotes. -/
abbrev outside (depth : Nat) : BraceScan :=
  ⟨depth, .plain⟩

/-- The slicer inside quotes. -/
abbrev inside (depth : Nat) : BraceScan :=
  ⟨depth, .quoted⟩

/-- The slicer behind a backslash inside quotes. -/
abbrev escaped (depth : Nat) : BraceScan :=
  ⟨depth, .escaped⟩

/-- Passes one mark; `none` at the brace that closes the first one. -/
def step (s : BraceScan) (mark : BraceMark) : Option BraceScan :=
  match s.state, mark with
  | .plain, .closing =>
      match s.depth with
      | 0 => none
      | depth + 1 => some ⟨depth, .plain⟩
  | .plain, .opening => some ⟨s.depth + 1, .plain⟩
  | .plain, .quote => some ⟨s.depth, .quoted⟩
  | .plain, _ => some ⟨s.depth, .plain⟩
  | .quoted, .quote => some ⟨s.depth, .plain⟩
  | .quoted, .backslash => some ⟨s.depth, .escaped⟩
  | .quoted, _ => some ⟨s.depth, .quoted⟩
  | .escaped, _ => some ⟨s.depth, .quoted⟩

/-- Passes a row of marks. -/
def pass (s : BraceScan) (marks : List BraceMark) : Option BraceScan :=
  marks.foldlM step s

/-- Passing two rows is passing the one and then the other. -/
theorem pass_append (s : BraceScan) (marks more : List BraceMark) :
    s.pass (marks ++ more) = (s.pass marks).bind (·.pass more) :=
  List.foldlM_append

/-- What has no mark changes nothing, except right behind a backslash in quotes. -/
theorem step_other {s : BraceScan} (h : s.state ≠ .escaped) : s.step .other = some s := by
  obtain ⟨depth, state⟩ := s
  cases state with
  | plain => rfl
  | quoted => rfl
  | escaped => exact absurd rfl h

/-- A row without marks changes nothing either. -/
theorem pass_others {s : BraceScan} (hs : s.state ≠ .escaped) {marks : List BraceMark}
    (h : ∀ m ∈ marks, m = .other) : s.pass marks = some s := by
  induction marks with
  | nil => rfl
  | cons m marks ih =>
    obtain ⟨rfl, hmarks⟩ := List.forall_mem_cons.mp h
    rw [pass, List.foldlM_cons, step_other hs]
    exact ih hmarks

/-- The bytes by which the input is longer than its end lead from one place to the other. -/
def Leads (s : BraceScan) (input : List UInt8) (s' : BraceScan) (rest : List UInt8) : Prop :=
  ∃ taken, input = taken ++ rest ∧ s.pass (taken.map .ofByte) = some s'

/-- Without bytes the slicer stays. -/
theorem Leads.refl (s : BraceScan) (input : List UInt8) : s.Leads input s input :=
  ⟨[], rfl, rfl⟩

/-- Two stretches of bytes in a row. -/
theorem Leads.trans {s t u : BraceScan} {input middle rest : List UInt8}
    (h : s.Leads input t middle) (h' : t.Leads middle u rest) : s.Leads input u rest := by
  obtain ⟨taken, rfl, hpass⟩ := h
  obtain ⟨taken', rfl, hpass'⟩ := h'
  refine ⟨taken ++ taken', (List.append_assoc ..).symm, ?_⟩
  rw [List.map_append, pass_append, hpass]
  exact hpass'

/-- One byte and then a stretch of bytes. -/
theorem Leads.cons {s t u : BraceScan} {b : UInt8} {input rest : List UInt8}
    (h : s.step (.ofByte b) = some t) (h' : t.Leads input u rest) :
    s.Leads (b :: input) u rest := by
  obtain ⟨taken, rfl, hpass⟩ := h'
  refine ⟨b :: taken, rfl, ?_⟩
  rw [List.map_cons, pass, List.foldlM_cons, h]
  exact hpass

end BraceScan

/-- The bytes by which the input is longer than its end have no marks. -/
def Unmarked (input rest : List UInt8) : Prop :=
  ∃ taken, input = taken ++ rest ∧ ∀ b ∈ taken, BraceMark.ofByte b = .other

namespace Unmarked

/-- No bytes have no marks. -/
theorem refl (input : List UInt8) : Unmarked input input :=
  ⟨[], rfl, nofun⟩

/-- A byte without a mark before others. -/
theorem cons {b : UInt8} {input rest : List UInt8} (h : BraceMark.ofByte b = .other)
    (h' : Unmarked input rest) : Unmarked (b :: input) rest := by
  obtain ⟨taken, rfl, htaken⟩ := h'
  exact ⟨b :: taken, rfl, List.forall_mem_cons.mpr ⟨h, htaken⟩⟩

/-- Two stretches of bytes in a row. -/
theorem trans {input middle rest : List UInt8} (h : Unmarked input middle)
    (h' : Unmarked middle rest) : Unmarked input rest := by
  obtain ⟨taken, rfl, htaken⟩ := h
  obtain ⟨taken', rfl, htaken'⟩ := h'
  refine ⟨taken ++ taken', (List.append_assoc ..).symm, ?_⟩
  intro b hb
  rcases List.mem_append.mp hb with hb | hb
  · exact htaken b hb
  · exact htaken' b hb

/-- Bytes of a class without marks. -/
theorem dropWhile {p : UInt8 → Bool} (hp : ∀ b, p b = true → BraceMark.ofByte b = .other)
    (input : List UInt8) : Unmarked input (input.dropWhile p) :=
  ⟨input.takeWhile p, List.takeWhile_append_dropWhile.symm,
    fun b hb => hp b (List.all_eq_true.mp List.all_takeWhile b hb)⟩

/-- Bytes without marks leave the slicer where it stands, unless behind a backslash. -/
theorem leads {input rest : List UInt8} (h : Unmarked input rest) {s : BraceScan}
    (hs : s.state ≠ .escaped) : s.Leads input s rest := by
  obtain ⟨taken, rfl, htaken⟩ := h
  exact ⟨taken, rfl, BraceScan.pass_others hs (List.forall_mem_map.mpr htaken)⟩

theorem outside {input rest : List UInt8} (h : Unmarked input rest) (depth : Nat) :
    (BraceScan.outside depth).Leads input (.outside depth) rest :=
  h.leads (by simp)

theorem inside {input rest : List UInt8} (h : Unmarked input rest) (depth : Nat) :
    (BraceScan.inside depth).Leads input (.inside depth) rest :=
  h.leads (by simp)

end Unmarked

namespace Json

/-! ## Words and numbers -/

/-- A computation that goes on behind another succeeds only if both do. -/
theorem exists_of_bind_eq_ok {α β : Type} {x : Except Fault α} {f : α → Except Fault β} {b : β}
    (h : x >>= f = .ok b) : ∃ a, x = .ok a ∧ f a = .ok b := by
  cases x with
  | error fault => cases h
  | ok a => exact ⟨a, rfl, h⟩

/-- A result that is changed afterwards comes from a success. -/
theorem exists_of_map_eq_ok {ε α β : Type} {x : Except ε α} {f : α → β} {b : β}
    (h : x.map f = .ok b) : ∃ a, x = .ok a ∧ f a = b := by
  cases x with
  | error fault => cases h
  | ok a => exact ⟨a, rfl, Except.ok.inj h⟩

/-- Whitespace has no marks. -/
theorem ofByte_of_isSpace {b : UInt8} (h : isSpace b = true) : BraceMark.ofByte b = .other :=
  BraceMark.ofByte_of_class isSpace h rfl

/-- Digits have no marks. -/
theorem ofByte_of_isDigit {b : UInt8} (h : isDigit b = true) : BraceMark.ofByte b = .other :=
  BraceMark.ofByte_of_class isDigit h rfl

theorem unmarked_skipSpace (input : List UInt8) : Unmarked input (skipSpace input) :=
  .dropWhile (fun _ => ofByte_of_isSpace) input

theorem unmarked_dropWhile_isDigit (input : List UInt8) :
    Unmarked input (input.dropWhile isDigit) :=
  .dropWhile (fun _ => ofByte_of_isDigit) input

/-- A word takes its own letters. -/
theorem unmarked_readWord {json json' : Json} {letters input rest : List UInt8}
    (hletters : letters.all (BraceMark.ofByte · == .other) = true)
    (h : readWord json letters input = .ok (json', rest)) : Unmarked input rest := by
  induction letters generalizing input with
  | nil =>
    cases h
    exact .refl _
  | cons letter letters ih =>
    simp only [List.all_cons, Bool.and_eq_true, beq_iff_eq] at hletters
    obtain ⟨hletter, hrest⟩ := hletters
    cases input with
    | nil => cases h
    | cons b input =>
      rw [readWord] at h
      split at h
      · next heq => exact .cons (heq ▸ hletter) (ih hrest h)
      · cases h

/-- The digits of a significand. -/
theorem unmarked_takeDigits (significand count : Nat) (input : List UInt8) :
    Unmarked input (takeDigits significand count input).2.2 := by
  induction input generalizing significand count with
  | nil => exact .refl _
  | cons b input ih =>
    rw [takeDigits]
    split
    · next hdigit =>
      simp only [Bool.and_eq_true] at hdigit
      exact .cons (ofByte_of_isDigit hdigit.1) (ih _ _)
    · exact .refl _

/-- The digits of an exponent. -/
theorem unmarked_takeExponent (e : Nat) (input : List UInt8) :
    Unmarked input (takeExponent e input).2 := by
  induction input generalizing e with
  | nil => exact .refl _
  | cons b input ih =>
    rw [takeExponent]
    split
    · next hdigit =>
      split
      · exact .cons (ofByte_of_isDigit hdigit) (ih _)
      · exact .cons (ofByte_of_isDigit hdigit) (.refl _)
    · exact .refl _

/-- Making a double takes no bytes. -/
theorem rest_of_finish {negative : Bool} {magnitude : Option Float} {input rest : List UInt8}
    {n : Number} (h : finish negative magnitude input = .ok (n, rest)) : rest = input := by
  unfold finish at h
  split at h
  · cases h
  · next f =>
    dsimp only at h
    generalize (if negative then -f else f) = x at h
    split at h
    · cases h
      rfl
    · cases h

/-- The sign of an exponent and its digits. -/
theorem unmarked_exponentPart {negative : Bool} {significand : Nat} {exponent : Int}
    {input rest : List UInt8} {n : Number}
    (h : exponentPart negative significand exponent input = .ok (n, rest)) :
    Unmarked input rest := by
  unfold exponentPart at h
  split at h
  next down digits hsign =>
  have hsigned : Unmarked input digits := by
    split at hsign
    · next b tail =>
      split at hsign
      · next hplus =>
        cases hsign
        exact .cons (hplus ▸ rfl) (.refl _)
      · split at hsign
        · next hminus =>
          cases hsign
          exact .cons (hminus ▸ rfl) (.refl _)
        · cases hsign
          exact .refl _
    · cases hsign
      exact .refl _
  refine hsigned.trans ?_
  cases digits with
  | nil => cases h
  | cons b tail =>
    dsimp only at h
    split at h
    · cases h
    · next hdigit =>
      have hexponent := unmarked_takeExponent (digit b) tail
      refine .cons (ofByte_of_isDigit (by simpa using hdigit)) ?_
      split at h
      · next e after htake =>
        rw [htake] at hexponent
        rw [rest_of_finish h]
        exact hexponent
      · next after htake =>
        rw [htake] at hexponent
        split at h
        · cases h
        · rw [rest_of_finish h]
          exact hexponent.trans (unmarked_dropWhile_isDigit _)

/-- The mark of an exponent has no mark of the slicer. -/
theorem ofByte_of_exponentMark {b : UInt8} (h : b = byte 'e' ∨ b = byte 'E') :
    BraceMark.ofByte b = .other := by
  rcases h with rfl | rfl
  · rfl
  · rfl

/-- An exponent, if there is one. -/
theorem unmarked_exponent? {negative : Bool} {significand : Nat} {exponent : Int}
    {input rest : List UInt8} {n : Number}
    (h : exponent? negative significand exponent input = .ok (n, rest)) : Unmarked input rest := by
  cases input with
  | nil =>
    rw [rest_of_finish h]
    exact .refl _
  | cons b input =>
    rw [exponent?] at h
    split at h
    · next hmark => exact .cons (ofByte_of_exponentMark hmark) (unmarked_exponentPart h)
    · rw [rest_of_finish h]
      exact .refl _

/-- The digits behind a point, and an exponent. -/
theorem unmarked_fractionPart {negative : Bool} {significand : Nat} {exponent : Int}
    {input rest : List UInt8} {n : Number}
    (h : fractionPart negative significand exponent input = .ok (n, rest)) :
    Unmarked input rest := by
  unfold fractionPart at h
  cases input with
  | nil => cases h
  | cons b input =>
    dsimp only at h
    split at h
    · cases h
    · have hdigits := unmarked_takeDigits significand 0 (b :: input)
      exact hdigits.trans ((unmarked_dropWhile_isDigit _).trans (unmarked_exponent? h))

/-- A number without fraction and exponent takes no bytes behind its digits. -/
theorem rest_of_wholeNumber {negative : Bool} {significand : Nat} {input rest : List UInt8}
    {n : Number} (h : wholeNumber negative significand input = .ok (n, rest)) : rest = input := by
  unfold wholeNumber at h
  split at h
  · split at h
    · cases h
      rfl
    · exact rest_of_finish h
  · split at h
    · cases h
      rfl
    · exact rest_of_finish h

/-- What follows the whole part of a number. -/
theorem unmarked_afterWhole {negative : Bool} {significand dropped : Nat} {input rest : List UInt8}
    {n : Number} (h : afterWhole negative significand dropped input = .ok (n, rest)) :
    Unmarked input rest := by
  have hplain : ∀ input : List UInt8, (if dropped = 0 then wholeNumber negative significand input
      else real negative significand dropped input) = .ok (n, rest) → Unmarked input rest := by
    intro input h
    split at h
    · rw [rest_of_wholeNumber h]
      exact .refl _
    · rw [rest_of_finish h]
      exact .refl _
  cases input with
  | nil => exact hplain [] h
  | cons b input =>
    rw [afterWhole] at h
    split at h
    · next hpoint => exact .cons (hpoint ▸ rfl) (unmarked_fractionPart h)
    · split at h
      · next hmark => exact .cons (ofByte_of_exponentMark hmark) (unmarked_exponentPart h)
      · exact hplain _ h

/-- A number holds no marks. -/
theorem unmarked_readNumber {negative : Bool} {input rest : List UInt8} {n : Number}
    (h : readNumber negative input = .ok (n, rest)) : Unmarked input rest := by
  cases input with
  | nil => cases h
  | cons b input =>
    unfold readNumber at h
    dsimp only at h
    split at h
    · next hzero =>
      refine .cons (hzero ▸ rfl) ?_
      cases input with
      | nil => exact unmarked_afterWhole h
      | cons d input =>
        dsimp only at h
        split at h
        · cases h
        · exact unmarked_afterWhole h
    · split at h
      · next hdigit =>
        have hdigits := unmarked_takeDigits (digit b) 1 input
        exact .cons (ofByte_of_isDigit hdigit)
          (hdigits.trans ((unmarked_dropWhile_isDigit _).trans (unmarked_afterWhole h)))
      · cases h

/-! ## Strings -/

/-- Hexadecimal digits have no marks. -/
theorem ofByte_of_hexDigit? {b : UInt8} {n : Nat} (h : hexDigit? b = some n) :
    BraceMark.ofByte b = .other :=
  BraceMark.ofByte_of_class (fun b => (hexDigit? b).isSome) (by simp [h]) rfl

/-- The four digits of an escape. -/
theorem unmarked_hexEscape {input rest : List UInt8} {n : Nat}
    (h : hexEscape input = .ok (n, rest)) : Unmarked input rest := by
  unfold hexEscape at h
  split at h
  · split at h
    · next ha hb hc hd =>
      cases h
      exact .cons (ofByte_of_hexDigit? ha) (.cons (ofByte_of_hexDigit? hb)
        (.cons (ofByte_of_hexDigit? hc) (.cons (ofByte_of_hexDigit? hd) (.refl _))))
    · cases h
  · cases h

/-- One byte that has to be the given one. -/
theorem eq_cons_of_surrogateMark {mark : UInt8} {input rest : List UInt8}
    (h : surrogateMark mark input = .ok ((), rest)) : input = mark :: rest := by
  unfold surrogateMark at h
  split at h
  · cases h
  · split at h
    · next heq =>
      cases h
      rw [heq]
    · cases h

/-- An escape by code takes digits, and perhaps a second escape. -/
theorem leads_unicodeEscape {input rest : List UInt8} {c : Char}
    (h : unicodeEscape input = .ok (c, rest)) (depth : Nat) :
    (BraceScan.inside depth).Leads input (.inside depth) rest := by
  unfold unicodeEscape at h
  obtain ⟨⟨n, afterFirst⟩, hfirst, h⟩ := exists_of_bind_eq_ok h
  refine ((unmarked_hexEscape hfirst).inside depth).trans ?_
  dsimp only at h
  split at h
  · cases h
  · split at h
    · obtain ⟨⟨_, afterBackslash⟩, hbackslash, h⟩ := exists_of_bind_eq_ok h
      obtain ⟨⟨_, afterU⟩, hu, h⟩ := exists_of_bind_eq_ok h
      obtain ⟨⟨m, afterSecond⟩, hsecond, h⟩ := exists_of_bind_eq_ok h
      have hmarks : afterFirst = byte '\\' :: byte 'u' :: afterU := by
        rw [eq_cons_of_surrogateMark hbackslash]
        exact congrArg _ (eq_cons_of_surrogateMark hu)
      dsimp only at h
      split at h
      · obtain ⟨-, rfl⟩ := Prod.mk.inj (Except.ok.inj h)
        rw [hmarks]
        exact .cons (t := .escaped depth) rfl (.cons (t := .inside depth) rfl
          ((unmarked_hexEscape hsecond).inside depth))
      · cases h
    · obtain ⟨-, rfl⟩ := Prod.mk.inj (Except.ok.inj h)
      exact .refl _ _

/-- An escape is one byte, or a code behind one. -/
theorem rest_of_escape {b : UInt8} {input rest : List UInt8} {c : Char}
    (h : escape (b :: input) = .ok (c, rest)) :
    rest = input ∨ unicodeEscape input = .ok (c, rest) := by
  unfold escape at h
  dsimp only at h
  -- eight escapes stand for one character each
  iterate 8
    split at h
    · cases h
      exact .inl rfl
  split at h
  · exact .inr h
  · cases h

/-- An escape behind its backslash leads back into the quoted text. -/
theorem leads_escape {input rest : List UInt8} {c : Char} (h : escape input = .ok (c, rest))
    (depth : Nat) : (BraceScan.escaped depth).Leads input (.inside depth) rest := by
  cases input with
  | nil => cases h
  | cons b input =>
    refine .cons (t := .inside depth) rfl ?_
    rcases rest_of_escape h with rfl | hcode
    · exact .refl _ _
    · exact leads_unicodeEscape hcode depth

/-- In quotes a byte that is neither quote nor backslash changes nothing. -/
theorem step_inside {b : UInt8} (hquote : b ≠ byte '"') (hbackslash : b ≠ byte '\\') (depth : Nat) :
    (BraceScan.inside depth).step (.ofByte b) = some (.inside depth) := by
  unfold BraceMark.ofByte
  rw [if_neg hquote, if_neg hbackslash]
  split
  · rfl
  · split <;> rfl

/-- A string leads from behind its opening quote to behind its closing one. -/
theorem leads_stringBytes {fuel : Nat} {input bytes rest : List UInt8}
    (h : stringBytes fuel input = .ok (bytes, rest)) (depth : Nat) :
    (BraceScan.inside depth).Leads input (.outside depth) rest := by
  induction fuel generalizing input bytes with
  | zero => cases input <;> cases h
  | succ fuel ih =>
    cases input with
    | nil => cases h
    | cons b input =>
      rw [stringBytes] at h
      split at h
      · next hquote =>
        cases h
        rw [hquote]
        exact .cons (t := .outside depth) rfl (.refl _ _)
      · next hquote =>
        split at h
        · next hbackslash =>
          obtain ⟨⟨c, afterEscape⟩, hescape, h⟩ := exists_of_bind_eq_ok h
          obtain ⟨⟨more, afterString⟩, hmore, h⟩ := exists_of_bind_eq_ok h
          cases h
          rw [hbackslash]
          exact .cons (t := .escaped depth) rfl ((leads_escape hescape depth).trans (ih hmore))
        · next hbackslash =>
          split at h
          · cases h
          · obtain ⟨⟨more, afterString⟩, hmore, h⟩ := exists_of_bind_eq_ok h
            cases h
            exact .cons (step_inside hquote hbackslash depth) (ih hmore)

/-- A string with its opening quote stands outside of quotes. -/
theorem leads_readString {input rest : List UInt8} {text : String}
    (h : readString input = .ok (text, rest)) (depth : Nat) :
    (BraceScan.outside depth).Leads (byte '"' :: input) (.outside depth) rest := by
  unfold readString at h
  obtain ⟨⟨bytes, after⟩, hbytes, h⟩ := exists_of_bind_eq_ok h
  dsimp only at h
  split at h
  · cases h
    exact .cons (t := .inside depth) rfl (leads_stringBytes hbytes depth)
  · cases h

/-! ## Containers -/

/-- What a reader takes leaves the slicer outside of quotes with as many braces open. -/
def Balanced (item : Reader Json) : Prop :=
  ∀ {input rest : List UInt8} {json : Json}, item input = .ok (json, rest) →
    ∀ depth, (BraceScan.outside depth).Leads input (.outside depth) rest

/-- A comma is followed by whitespace. -/
theorem unmarked_afterComma {close : UInt8} {input rest : List UInt8}
    (h : afterComma close input = .ok ((), rest)) : Unmarked input rest := by
  have hspace := unmarked_skipSpace input
  unfold afterComma at h
  split at h
  · cases h
  · next hskip =>
    rw [hskip] at hspace
    split at h
    · cases h
    · cases h
      exact hspace

/-- Before the first part of a container stands nothing, and before each other one a comma. -/
theorem exists_of_divider {α : Type} {first : Bool} {close : UInt8} {fault : Fault} {b : UInt8}
    {input : List UInt8} {next : Unit × List UInt8 → Except Fault α} {result : α}
    (h : (if first = true then Except.ok ((), b :: input) >>= next
      else if b = byte ',' then afterComma close input >>= next
      else Except.error fault >>= next) = .ok result) :
    ∃ after, Unmarked (b :: input) after ∧ next ((), after) = .ok result := by
  split at h
  · exact ⟨_, .refl _, h⟩
  · split at h
    · next hcomma =>
      obtain ⟨⟨_, after⟩, hafter, h⟩ := exists_of_bind_eq_ok h
      exact ⟨after, .cons (hcomma ▸ rfl) (unmarked_afterComma hafter), h⟩
    · cases h

/-- The items of a list, up to behind its bracket. -/
theorem leads_readItems {item : Reader Json} (hitem : Balanced item) {fuel : Nat} {first : Bool}
    {input rest : List UInt8} {items : List Json}
    (h : readItems item fuel first input = .ok (items, rest)) (depth : Nat) :
    (BraceScan.outside depth).Leads input (.outside depth) rest := by
  induction fuel generalizing first input items with
  | zero => cases h
  | succ fuel ih =>
    have hspace := unmarked_skipSpace input
    rw [readItems] at h
    split at h
    · cases h
    · next b after hskip =>
      rw [hskip] at hspace
      refine (hspace.outside depth).trans ?_
      split at h
      · next hclose =>
        cases h
        exact .cons (hclose ▸ rfl) (.refl _ _)
      · obtain ⟨afterDivider, hdivider, h⟩ := exists_of_divider h
        obtain ⟨⟨x, afterItem⟩, hx, h⟩ := exists_of_bind_eq_ok h
        obtain ⟨⟨xs, afterItems⟩, hxs, h⟩ := exists_of_bind_eq_ok h
        cases h
        exact (hdivider.outside depth).trans ((hitem hx depth).trans (ih hxs))

/-- A key and the colon behind it. -/
theorem leads_readKey {input rest : List UInt8} {name : String}
    (h : readKey input = .ok (name, rest)) (depth : Nat) :
    (BraceScan.outside depth).Leads input (.outside depth) rest := by
  unfold readKey at h
  split at h
  · cases h
  · split at h
    · next hquote =>
      obtain ⟨⟨text, afterString⟩, hstring, h⟩ := exists_of_bind_eq_ok h
      have hspace := unmarked_skipSpace afterString
      rw [hquote]
      refine (leads_readString hstring depth).trans ?_
      dsimp only at h
      split at h
      · cases h
      · next hskip =>
        rw [hskip] at hspace
        split at h
        · next hcolon =>
          cases h
          exact (hspace.outside depth).trans (.cons (hcolon ▸ rfl) (.refl _ _))
        · cases h
    · cases h

/-- The members of an object, up to the brace that closes it. -/
theorem leads_readMembers {item : Reader Json} (hitem : Balanced item) {fuel : Nat} {first : Bool}
    {known members : Dict Json} {input rest : List UInt8}
    (h : readMembers item fuel first known input = .ok (members, rest)) (depth : Nat) :
    (BraceScan.outside depth).Leads input (.outside depth) (byte '\x7d' :: rest) := by
  induction fuel generalizing first known input with
  | zero => cases h
  | succ fuel ih =>
    have hspace := unmarked_skipSpace input
    rw [readMembers] at h
    split at h
    · cases h
    · next b after hskip =>
      rw [hskip] at hspace
      refine (hspace.outside depth).trans ?_
      split at h
      · next hclose =>
        cases h
        rw [hclose]
        exact .refl _ _
      · obtain ⟨afterDivider, hdivider, h⟩ := exists_of_divider h
        obtain ⟨⟨name, afterKey⟩, hkey, h⟩ := exists_of_bind_eq_ok h
        obtain ⟨⟨x, afterItem⟩, hx, h⟩ := exists_of_bind_eq_ok h
        exact (hdivider.outside depth).trans
          ((leads_readKey hkey depth).trans ((hitem hx depth).trans (ih h)))

/-- An object with both its braces leaves the number of open braces as it was. -/
theorem leads_object {item : Reader Json} (hitem : Balanced item) {fuel : Nat}
    {members : Dict Json} {input rest : List UInt8}
    (h : readMembers item fuel true [] input = .ok (members, rest)) (depth : Nat) :
    (BraceScan.outside depth).Leads (byte '\x7b' :: input) (.outside depth) rest :=
  .cons (t := .outside (depth + 1)) rfl ((leads_readMembers hitem h (depth + 1)).trans
    (.cons (t := .outside depth) rfl (.refl _ _)))

/-- Every value that is read, to whatever depth, is balanced. -/
theorem balanced_readValue (depth : Nat) : Balanced (readValue depth) := by
  induction depth with
  | zero =>
    intro input rest json h
    cases h
  | succ depth ih =>
    intro input rest json h braces
    have hspace := unmarked_skipSpace input
    rw [readValue] at h
    split at h
    · cases h
    · next b after hskip =>
      rw [hskip] at hspace
      refine (hspace.outside braces).trans ?_
      split at h
      · next hword =>
        exact .cons (hword ▸ rfl) ((unmarked_readWord rfl h).outside braces)
      split at h
      · next hword =>
        exact .cons (hword ▸ rfl) ((unmarked_readWord rfl h).outside braces)
      split at h
      · next hword =>
        exact .cons (hword ▸ rfl) ((unmarked_readWord rfl h).outside braces)
      split at h
      · next hminus =>
        obtain ⟨⟨n, rest'⟩, hnumber, h⟩ := exists_of_map_eq_ok h
        cases h
        exact .cons (hminus ▸ rfl) ((unmarked_readNumber hnumber).outside braces)
      split at h
      · obtain ⟨⟨n, rest'⟩, hnumber, h⟩ := exists_of_map_eq_ok h
        cases h
        exact (unmarked_readNumber hnumber).outside braces
      split at h
      · next hquote =>
        obtain ⟨⟨text, rest'⟩, hstring, h⟩ := exists_of_map_eq_ok h
        cases h
        rw [hquote]
        exact leads_readString hstring braces
      split at h
      · next hbracket =>
        split at h
        · cases h
        · obtain ⟨⟨items, rest'⟩, hitems, h⟩ := exists_of_map_eq_ok h
          cases h
          exact .cons (hbracket ▸ rfl) (leads_readItems ih hitems braces)
      split at h
      · next hbrace =>
        split at h
        · cases h
        · obtain ⟨⟨members, rest'⟩, hmembers, h⟩ := exists_of_map_eq_ok h
          cases h
          rw [hbrace]
          exact leads_object ih hmembers braces
      · cases h

end Json

end CallScript
