import CallScript.Proofs.ReusedParser

/-!
# Looking ahead changes nothing

A token that is looked at stays the next one. So whoever takes tokens and looks ahead in any order
takes the same tokens as somebody who never looks ahead, and sees each time the token that is taken
next. A parser may be asked for the next token at any time too: nothing that it reads afterwards
depends on it, although its stream has then read further than anybody has taken.
-/

namespace CallScript

/-! ## Streams -/

/-- The two ways to get at the next token. -/
inductive Access where
  | next
  | peek
  deriving DecidableEq

namespace TokenStream

/-- The token that is got at, and the stream behind. -/
def access (s : TokenStream) : Access → Token × TokenStream
  | .next => s.next
  | .peek => s.peek

/-- The tokens got at one after the other, each with the way it was got at. -/
def replies (s : TokenStream) : List Access → List (Access × Token)
  | [] => []
  | access :: accesses =>
      (access, (s.access access).1) :: (s.access access).2.replies accesses

/-- Looking ahead twice is looking ahead once. -/
theorem peek_peek (s : TokenStream) : s.peek.2.peek = s.peek := by
  rw [peek, next_peek]
  rfl

/-- A look ahead does not change what is got at behind it. -/
theorem access_peek (s : TokenStream) (access : Access) :
    s.peek.2.access access = s.access access := by
  cases access with
  | next => exact s.next_peek
  | peek => exact s.peek_peek

/-- A look ahead does not change the replies behind it. -/
theorem replies_peek (s : TokenStream) (accesses : List Access) :
    s.peek.2.replies accesses = s.replies accesses := by
  cases accesses with
  | nil => rfl
  | cons access accesses => rw [replies, replies, access_peek]

/-- The tokens that are taken are those taken without looking ahead. -/
theorem filter_replies (s : TokenStream) (accesses : List Access) :
    (s.replies accesses).filter (·.1 = .next) =
      s.replies (List.replicate (accesses.count .next) .next) := by
  induction accesses generalizing s with
  | nil => rfl
  | cons access accesses ih =>
    cases access with
    | next =>
      rw [List.count_cons_self, List.replicate_succ, replies, replies,
        List.filter_cons_of_pos (by simp), ih]
    | peek =>
      have hcount : (Access.peek :: accesses).count .next = accesses.count .next := by simp
      rw [hcount, replies, List.filter_cons_of_neg (by simp), ← ih]
      exact congrArg (List.filter _) (s.replies_peek accesses)

/-- The first token taken is the next one, however often it has been looked at before. -/
theorem eq_next_of_find?_replies {s : TokenStream} {accesses : List Access}
    {reply : Access × Token}
    (h : (s.replies accesses).find? (·.1 = .next) = some reply) : reply.2 = s.next.1 := by
  induction accesses with
  | nil => cases h
  | cons access accesses ih =>
    cases access with
    | next =>
      rw [replies, List.find?_cons_of_pos (by simp)] at h
      rw [← Option.some.inj h]
      rfl
    | peek =>
      rw [replies, List.find?_cons_of_neg (by simp)] at h
      exact ih ((congrArg _ (s.replies_peek accesses)).symm.trans h)

/-- A look ahead shows the token that is taken next. -/
theorem eq_of_replies_eq_append {s : TokenStream} {accesses : List Access}
    {before behind : List (Access × Token)} {seen : Token} {taken : Access × Token}
    (h : s.replies accesses = before ++ (.peek, seen) :: behind)
    (htaken : behind.find? (·.1 = .next) = some taken) : taken.2 = seen := by
  induction accesses generalizing s before with
  | nil => simp [replies] at h
  | cons access accesses ih =>
    rw [replies] at h
    cases before with
    | nil =>
      obtain ⟨hreply, hbehind⟩ := List.cons.inj h
      obtain ⟨rfl, rfl⟩ := Prod.mk.inj hreply
      rw [← hbehind] at htaken
      exact eq_next_of_find?_replies ((congrArg _ (s.replies_peek accesses)).symm.trans htaken)
    | cons reply before => exact ih (List.cons.inj h).2

/-! ## The tokens to come -/

/-- Behind a taken token nothing has been read ahead. -/
theorem weight_next (s : TokenStream) : s.next.2.weight = s.next.2.cursor.rest.length + 1 := by
  have hahead : s.next.2.ahead = none := by
    unfold next
    split <;> rfl
  simp [weight, hahead]

/-- More fuel than is needed changes nothing. -/
theorem takeUpTo_eq {s : TokenStream} {fuel fuel' : Nat} (h : s.weight ≤ fuel)
    (h' : s.weight ≤ fuel') : s.takeUpTo fuel = s.takeUpTo fuel' := by
  induction fuel generalizing s fuel' with
  | zero => simp [weight] at h
  | succ fuel ih =>
    cases fuel' with
    | zero => simp [weight] at h'
    | succ fuel' =>
      cases hlast : s.next.1.isLast with
      | true => rw [takeUpTo_of_isLast hlast, takeUpTo_of_isLast hlast]
      | false =>
        have hlt := weight_next_lt hlast
        have hrest : s.next.2.takeUpTo fuel = s.next.2.takeUpTo fuel' := ih (by omega) (by omega)
        rw [takeUpTo_of_not_isLast hlast, takeUpTo_of_not_isLast hlast, hrest]

/-- A look ahead does not change the tokens to come. -/
theorem upcoming_peek (s : TokenStream) : s.peek.2.upcoming = s.upcoming := by
  have hfuel : s.next.2.weight = s.peek.2.cursor.rest.length + 1 := s.weight_next
  have hbound : s.weight ≤ s.cursor.rest.length + 2 := by
    unfold weight
    split <;> omega
  have hnext := s.next_peek
  rw [upcoming, upcoming]
  cases hlast : s.next.1.isLast with
  | true => rw [takeUpTo_of_isLast (by rw [hnext, hlast]), takeUpTo_of_isLast hlast, hnext]
  | false =>
    -- one token further on both amounts of fuel are enough
    have hlt := weight_next_lt hlast
    have hrest : s.next.2.takeUpTo (s.peek.2.cursor.rest.length + 1) =
        s.next.2.takeUpTo (s.cursor.rest.length + 1) :=
      takeUpTo_eq (by omega) (by omega)
    rw [takeUpTo_of_not_isLast (by rw [hnext, hlast]), takeUpTo_of_not_isLast hlast, hnext, hrest]

end TokenStream

/-! ## Parsers -/

/-- Reading some token depends on the parser by its memory of failures alone. -/
theorem readTree_congr {σ : Type} (step : σ → Token → Step σ) (close : σ → Node) (state : σ)
    {p q : Parser} (h : p.failed = q.failed) {tokens : List (Token × TokenStream)}
    (hne : tokens ≠ []) :
    readTree step close state p tokens = readTree step close state q tokens := by
  cases tokens with
  | nil => exact absurd rfl hne
  | cons entry tokens => rw [readTree, readTree, h]

/-- The answer to a request. -/
inductive Answer where
  | token (token : Token)
  | tree (node : Node)
  /-- a tree, or its first error -/
  | verdict (result : Except SyntaxError Node)

/-- Whether a request asks for a look ahead. -/
def Request.isPeek : Request → Bool
  | .peek => true
  | _ => false

namespace Parser

/-- What a parser answers to a request. -/
def answer (p : Parser) : Request → Answer
  | .next => .token p.next.1
  | .peek => .token p.peek.1
  | .call => .tree p.call.node
  | .argument => .tree p.argument.node
  | .statement => .tree p.statement.node
  | .script => .tree p.script.node
  | .check => .verdict p.script.checked

/-- The answers to requests one after the other, each with its request. -/
def answers (p : Parser) : List Request → List (Request × Answer)
  | [] => []
  | request :: requests => (request, p.answer request) :: (p.use request).answers requests

/-- Taking after a look ahead is taking. -/
theorem next_peek (p : Parser) : p.peek.2.next = p.next := by
  have hstream := p.stream.next_peek
  rw [next, next]
  exact congrArg (fun step : Token × TokenStream => (step.1, { p with stream := step.2 })) hstream

/-- Looking ahead twice is looking ahead once. -/
theorem peek_peek (p : Parser) : p.peek.2.peek = p.peek := by
  have hstream := p.stream.peek_peek
  rw [peek, peek]
  exact congrArg (fun step : Token × TokenStream => (step.1, { p with stream := step.2 })) hstream

/-- A look ahead does not change the script that is read behind it. -/
theorem script_peek (p : Parser) : p.peek.2.script = p.script := by
  have htokens : p.peek.2.stream.upcoming = p.stream.upcoming := p.stream.upcoming_peek
  rw [script, script, htokens]
  exact readTree_congr _ _ _ rfl (by simp [TokenStream.upcoming, TokenStream.takeUpTo])

/-- A look ahead changes neither the answer to the request behind it nor the parser behind that. -/
theorem answer_use_peek (p : Parser) (request : Request) :
    p.peek.2.answer request = p.answer request ∧ p.peek.2.use request = p.use request := by
  have hnext := p.next_peek
  cases request with
  | next => exact ⟨congrArg _ (congrArg Prod.fst hnext), congrArg Prod.snd hnext⟩
  | peek => exact ⟨congrArg _ (congrArg Prod.fst p.peek_peek), congrArg Prod.snd p.peek_peek⟩
  | call => simp only [answer, use, call, hnext, and_self]
  | argument => simp only [answer, use, argument, hnext, and_self]
  | statement => simp only [answer, use, statement, hnext, and_self]
  | script => simp only [answer, use, script_peek, and_self]
  | check => simp only [answer, use, script_peek, and_self]

/-- A look ahead does not change the answers behind it. -/
theorem answers_peek (p : Parser) (requests : List Request) :
    p.peek.2.answers requests = p.answers requests := by
  cases requests with
  | nil => rfl
  | cons request requests =>
    obtain ⟨hanswer, huse⟩ := p.answer_use_peek request
    rw [answers, answers, hanswer, huse]

/-- Without the looks ahead a parser gives the same answers to all other requests. -/
theorem filter_answers (p : Parser) (requests : List Request) :
    (p.answers requests).filter (!·.1.isPeek) = p.answers (requests.filter (!·.isPeek)) := by
  induction requests generalizing p with
  | nil => rfl
  | cons request requests ih =>
    rw [answers]
    cases hpeek : request.isPeek with
    | false =>
      rw [List.filter_cons_of_pos (by simp [hpeek]), List.filter_cons_of_pos (by simp [hpeek]),
        answers, ih]
    | true =>
      obtain rfl : request = .peek := by
        cases request <;> first | rfl | cases hpeek
      rw [List.filter_cons_of_neg (by simp [hpeek]), List.filter_cons_of_neg (by simp [hpeek]),
        ← ih]
      exact congrArg (List.filter _) (p.answers_peek requests)

end Parser

/-- Looking ahead is transparent. Whatever a stream reads and however taking and looking ahead
alternate, the tokens taken are those of as many takings alone, and every look ahead shows the token
that is taken next. Whatever a parser is asked, the answers to all requests but the looks ahead are
those that it gives if the looks ahead are left out. -/
theorem looking_ahead_is_transparent :
    (∀ (s : TokenStream) (accesses : List Access),
      (s.replies accesses).filter (·.1 = .next) =
          s.replies (List.replicate (accesses.count .next) .next) ∧
        ∀ before seen behind taken, s.replies accesses = before ++ (.peek, seen) :: behind →
          behind.find? (·.1 = .next) = some (.next, taken) → taken = seen) ∧
    ∀ (p : Parser) (requests : List Request),
      (p.answers requests).filter (!·.1.isPeek) = p.answers (requests.filter (!·.isPeek)) := by
  refine ⟨fun s accesses => ⟨s.filter_replies accesses, ?_⟩, Parser.filter_answers⟩
  intro before seen behind taken hreplies htaken
  exact TokenStream.eq_of_replies_eq_append hreplies htaken

/-- A source that could not be read. -/
def unreadable : TokenStream :=
  .ofRead "t" (.error "gone")

/-- The failure to read a source is shown as often as one looks ahead, and then it is taken. -/
theorem looking_ahead_is_transparent_at_failure :
    ∃ seen taken, unreadable.replies [.peek, .peek, .next] =
        [(.peek, seen), (.peek, seen), (.next, taken)] ∧ taken.kind = .error ∧ taken = seen :=
  ⟨_, _, rfl, rfl,
    (looking_ahead_is_transparent.1 unreadable [.peek, .peek, .next]).2 [] _ _ _ rfl rfl⟩

end CallScript
