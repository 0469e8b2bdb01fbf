/-
Reading without a fault.

Two things could go wrong in reading a text. The lexer has each token
only once, that for the end of the input as well, so a reader that takes
the last token and asks for another one comes to a fault. And a dotted
list could be closed before it has an item. The bare reader (`Bare.run`)
allows for both: it draws its tokens from a supply that runs out, and
keeps the items of a list in a list, which may be empty.

A stream is such a supply with the token at its end kept back
(`TokenStream.feed`), and every state of the reading machine is one of
the bare reader (`Reading.bare`), with an item wherever the point of a
dotted list can come. Looking, taking and stepping go together on both
sides, and so does the whole reading (`bare_read`).
-/
import PocketScheme.Proofs.Fault.Basic
import PocketScheme.Reading

namespace PocketScheme

namespace Bare

-- ========================================================== the supply

/-- The next token of what the lexer still has to give. -/
def supply : Lexing → Except Stop (Token × Lexing)
  | ⟨token :: tokens, failure⟩ => .ok (token, ⟨tokens, failure⟩)
  | ⟨[], some failure⟩ => .error (.failure failure)
  | ⟨[], none⟩ => .error (.fault .exhausted)

/-- The token that waits, if any, and those that the lexer still has to
give. -/
structure Feed where
  ahead : Option Token
  coming : Lexing

namespace Feed

/-- The next token, which stays in front. -/
def peek (feed : Feed) : Except Stop (Token × Feed) :=
  match feed.ahead with
  | some token => .ok (token, feed)
  | none =>
    match supply feed.coming with
    | .ok (token, coming) => .ok (token, ⟨some token, coming⟩)
    | .error stop => .error stop

/-- Takes the token that waits; the end of the input stays. -/
def take (token : Token) (feed : Feed) : Feed :=
  if token.kind = .endOfInput then feed else { feed with ahead := none }

/-- The next token, which has to be of a kind to be taken. -/
def expect (kind : Kind) (expecting : String) (feed : Feed) : Except Stop (Token × Feed) :=
  match feed.peek with
  | .ok (token, feed) =>
    if token.kind = kind then .ok (token, feed.take token)
    else .error (.failure (token.unexpected expecting))
  | .error stop => .error stop

/-- The number of tokens, the one that waits counted as less than the
others. -/
def weight (feed : Feed) : Nat :=
  2 * feed.coming.tokens.length + if feed.ahead.isSome then 1 else 0

theorem weight_take_lt {feed feed' : Feed} {token : Token} (h : feed.peek = .ok (token, feed'))
    (hkind : token.kind ≠ .endOfInput) : (feed'.take token).weight < feed.weight := by
  obtain ⟨ahead, tokens, failure⟩ := feed
  cases ahead with
  | some waiting =>
      cases h
      simp [take, weight, hkind]
  | none =>
      cases tokens with
      | cons next tokens =>
          cases h
          simp only [take, hkind, if_false, weight, List.length_cons, Option.isSome_none]
          simp
      | nil => cases failure <;> cases h

end Feed

-- ========================================================== the reader

/-- What an unfinished expression is part of. -/
inductive Frame where
  /-- An apostrophe. -/
  | quoted
  /-- A list, of which these are the items before it. -/
  | item (items : List Value)
  /-- A dotted list with these items, of which it is the tail. -/
  | tail (items : List Value)

/-- The state of a bare reading. -/
inductive State where
  | form (stack : List Frame)
  | opened (stack : List Frame)
  | afterItem (items : List Value) (stack : List Frame)
  | afterSpace (items : List Value) (stack : List Frame)
  | afterPoint (items : List Value) (stack : List Frame)
  | afterTail (items : List Value) (tail : Value) (stack : List Frame)
  | done (value : Value)

/-- Hands a finished value to what it is part of. -/
def deliver (v : Value) : List Frame → State
  | [] => .done v
  | .quoted :: stack => deliver (Reading.quote v) stack
  | .item items :: stack => .afterItem (items ++ [v]) stack
  | .tail items :: stack => .afterTail items v stack

/-- Starts an expression with a token. -/
def start (token : Token) (stack : List Frame) : Except Stop State :=
  match token.kind with
  | .atom => .ok (deliver (Reading.ofAtom token.text) stack)
  | .string => .ok (deliver (.str (.ofList (Reading.unquote token.text))) stack)
  | .number => .ok (deliver (.int (Text.Decimal.valueInParts token.text)) stack)
  | .quote => .ok (.form (.quoted :: stack))
  | .leftParen => .ok (.opened stack)
  | _ => .error (.failure (token.unexpected "expression"))

/-- Takes one token. At the end of a dotted list the list is made, of
whatever items there are. -/
def step (token : Token) : State → Except Stop State
  | .form stack => start token stack
  | .opened stack =>
    if token.kind = .rightParen then .ok (deliver (.list []) stack)
    else start token (.item [] :: stack)
  | .afterItem items stack =>
    match token.kind with
    | .rightParen => .ok (deliver (.list items) stack)
    | .whitespace => .ok (.afterSpace items stack)
    | _ => .error (.failure (token.unexpected "space or \")\""))
  | .afterSpace items stack =>
    if token.kind = .point then .ok (.afterPoint items stack)
    else start token (.item items :: stack)
  | .afterPoint items stack =>
    if token.kind = .whitespace then .ok (.form (.tail items :: stack))
    else .error (.failure (token.unexpected "space"))
  | .afterTail items tail stack =>
    if token.kind = .rightParen then (dotted items tail).map fun v => deliver v stack
    else .error (.failure (token.unexpected "\")\""))
  | .done _ => .error (.failure (token.unexpected "end of input"))

theorem step_of_endOfInput {token : Token} (h : token.kind = .endOfInput) (state : State) :
    ∃ stop, step token state = .error stop := by
  cases state <;> simp [step, start, h]

/-- Takes tokens until the expression is read. -/
def run (state : State) (feed : Feed) : Except Stop (Value × Feed) :=
  match state with
  | .done v => .ok (v, feed)
  | state =>
    match _hpeek : feed.peek with
    | .error stop => .error stop
    | .ok (token, feed') =>
      match _hstep : step token state with
      | .error stop => .error stop
      | .ok state' => run state' (feed'.take token)
termination_by feed.weight
decreasing_by
  refine Feed.weight_take_lt ‹_› fun hend => ?_
  obtain ⟨stop, hstop⟩ := step_of_endOfInput hend state
  rw [hstop] at _hstep
  cases _hstep

/-- The value of a text that is exactly one expression. -/
def read (text : List Char) : Except Stop Value :=
  match run (.form []) ⟨none, lex text⟩ with
  | .error stop => .error stop
  | .ok (v, feed) =>
    match feed.expect .endOfInput "end of input" with
    | .error stop => .error stop
    | .ok _ => .ok v

end Bare

-- ============================================== streams are supplies

/-- What a stream still has to give. Where the end of the input waits,
the lexer has nothing left. -/
def TokenStream.feed (stream : TokenStream) : Bare.Feed :=
  match stream.ahead with
  | some token =>
    ⟨some token, if token.kind = .endOfInput then ⟨[], none⟩ else stream.cursor.lex⟩
  | none => ⟨none, stream.cursor.lex⟩

/-- An answer of a stream, as one of a supply. -/
def fed {α : Type} (answer : Except Failure α × TokenStream) : Except Stop (α × Bare.Feed) :=
  (faultless answer.1).map fun a => (a, answer.2.feed)

@[simp] theorem fed_ok {α : Type} (a : α) (stream : TokenStream) :
    fed (.ok a, stream) = .ok (a, stream.feed) := rfl

@[simp] theorem fed_error {α : Type} (failure : Failure) (stream : TokenStream) :
    fed ((.error failure : Except Failure α), stream) = .error (.failure failure) := rfl

/-- The supply of a text gives the token at a cursor, and after the end
of the input nothing. -/
theorem supply_lex (cursor : Cursor) :
    Bare.supply cursor.lex =
      match cursor.next with
      | .ok (token, after) =>
        .ok (token, if token.kind = .endOfInput then ⟨[], none⟩ else after.lex)
      | .error failure => .error (.failure failure) := by
  rw [Cursor.lex]
  split
  · next failure hnext => rw [hnext]; rfl
  · next token after hnext =>
      rw [hnext]
      split
      · next hend => simp [Bare.supply, hend]
      · next hend => simp [Bare.supply, hend]

theorem bare_peek (stream : TokenStream) : stream.feed.peek = fed stream.peek := by
  obtain ⟨ahead, cursor⟩ := stream
  cases ahead with
  | some token => rfl
  | none =>
      unfold TokenStream.feed Bare.Feed.peek TokenStream.peek
      simp only [supply_lex]
      cases cursor.next with
      | error failure => rfl
      | ok found => rfl

theorem TokenStream.ahead_of_peek {stream stream' : TokenStream} {token : Token}
    (h : stream.peek = (.ok token, stream')) : stream'.ahead = some token := by
  unfold peek at h
  split at h
  · next hahead =>
      cases h
      exact hahead
  · split at h
    · cases h
      rfl
    · cases h

/-- A token that waits is taken on both sides, and the end of the input
on neither. -/
theorem bare_take {stream stream' : TokenStream} {token : Token}
    (h : stream.peek = (.ok token, stream')) :
    stream'.feed.take token = (stream'.take token).feed := by
  have hahead := TokenStream.ahead_of_peek h
  unfold Bare.Feed.take TokenStream.take
  by_cases hend : token.kind = .endOfInput
  · rw [if_pos hend, if_pos hend]
  · rw [if_neg hend, if_neg hend]
    unfold TokenStream.feed
    rw [hahead]
    simp [hend]

theorem bare_expect (stream : TokenStream) (kind : Kind) (expecting : String) :
    stream.feed.expect kind expecting = fed (stream.expect kind expecting) := by
  unfold Bare.Feed.expect TokenStream.expect
  rw [bare_peek]
  rcases hpeek : stream.peek with ⟨outcome, stream'⟩
  cases outcome with
  | error failure => rfl
  | ok token =>
      show (if token.kind = kind then _ else _) = fed (if token.kind = kind then _ else _)
      split
      · rw [bare_take hpeek, fed_ok]
      · rfl

-- =========================================== states are states of both

/-- A frame, with the items that it has. -/
def Frame.bare : Frame → Bare.Frame
  | quoted => .quoted
  | firstItem => .item []
  | nextItem first more => .item (first :: more.reverse)
  | tail first more => .tail (first :: more.reverse)

namespace Reading

/-- A state, with the items that it has. There is one wherever the point
of a dotted list can come. -/
def bare : Reading → Bare.State
  | form stack => .form (stack.map Frame.bare)
  | opened stack => .opened (stack.map Frame.bare)
  | afterItem first more stack => .afterItem (first :: more.reverse) (stack.map Frame.bare)
  | afterSpace first more stack => .afterSpace (first :: more.reverse) (stack.map Frame.bare)
  | afterPoint first more stack => .afterPoint (first :: more.reverse) (stack.map Frame.bare)
  | afterTail first more tail stack =>
    .afterTail (first :: more.reverse) tail (stack.map Frame.bare)
  | done v => .done v

/-- What a step leads to, as a step of the bare reader. -/
def bareOutcome (token : Token) (outcome : Except String Reading) : Except Stop Bare.State :=
  match outcome with
  | .ok reading => .ok reading.bare
  | .error expecting => .error (.failure (token.unexpected expecting))

theorem bare_deliver (v : Value) (stack : List Frame) :
    Bare.deliver v (stack.map Frame.bare) = (deliver v stack).bare := by
  induction stack generalizing v with
  | nil => rfl
  | cons frame stack ih =>
      cases frame with
      | quoted => exact ih (quote v)
      | firstItem => rfl
      | tail first more => rfl
      | nextItem first more =>
          rw [List.map_cons, Frame.bare, Bare.deliver, deliver, bare, List.reverse_cons]
          rfl

theorem bare_start (token : Token) (stack : List Frame) :
    Bare.start token (stack.map Frame.bare) = bareOutcome token (start token stack) := by
  obtain ⟨kind, text, position⟩ := token
  cases kind with
  | atom | string | number => exact congrArg Except.ok (bare_deliver _ stack)
  | _ => rfl

/-- A step of the machine is one of the bare reader, and when a dotted
list is made it has an item. -/
theorem bare_step (token : Token) (reading : Reading) :
    Bare.step token reading.bare = bareOutcome token (reading.step token) := by
  cases reading with
  | form stack => exact bare_start token stack
  | opened stack =>
      rw [bare, Bare.step, step]
      by_cases hkind : token.kind = .rightParen
      · rw [if_pos hkind, if_pos hkind]
        exact congrArg Except.ok (bare_deliver _ stack)
      · rw [if_neg hkind, if_neg hkind]
        exact bare_start token (.firstItem :: stack)
  | afterItem first more stack =>
      obtain ⟨kind, text, position⟩ := token
      cases kind with
      | rightParen => exact congrArg Except.ok (bare_deliver _ stack)
      | _ => rfl
  | afterSpace first more stack =>
      rw [bare, Bare.step, step]
      by_cases hkind : token.kind = .point
      · rw [if_pos hkind, if_pos hkind]
        rfl
      · rw [if_neg hkind, if_neg hkind]
        exact bare_start token (.nextItem first more :: stack)
  | afterPoint first more stack =>
      rw [bare, Bare.step, step]
      by_cases hkind : token.kind = .whitespace
      · rw [if_pos hkind, if_pos hkind]
        rfl
      · rw [if_neg hkind, if_neg hkind]
        rfl
  | afterTail first more tail stack =>
      rw [bare, Bare.step, step]
      by_cases hkind : token.kind = .rightParen
      · rw [if_pos hkind, if_pos hkind]
        exact congrArg Except.ok (bare_deliver _ stack)
      · rw [if_neg hkind, if_neg hkind]
        rfl
  | done v => rfl

end Reading

-- ========================================================== whole runs

theorem Bare.run_done (v : Value) (feed : Feed) : run (.done v) feed = .ok (v, feed) := by
  rw [run]

/-- A run that is not at its end looks at a token and takes a step. -/
theorem Bare.run_of_undone {state : State} (hundone : ∀ v, state ≠ .done v) (feed : Feed) :
    run state feed =
      match feed.peek with
      | .error stop => .error stop
      | .ok (token, feed') =>
        match step token state with
        | .error stop => .error stop
        | .ok state' => run state' (feed'.take token) := by
  rw [run.eq_2 state feed hundone]
  split
  · simp_all
  · split <;> simp_all

theorem Reading.bare_ne_done {reading : Reading} (hundone : ∀ v, reading ≠ done v) (v : Value) :
    reading.bare ≠ .done v := by
  cases reading with
  | done w => exact absurd rfl (hundone w)
  | _ =>
      intro h
      cases h

/-- A run of the machine is one of the bare reader, to its end. -/
theorem bare_run (reading : Reading) (stream : TokenStream) :
    Bare.run reading.bare stream.feed = fed (reading.run stream) := by
  -- along the run: each case is one look at the stream and one step
  fun_induction Reading.run reading stream with
  | case1 stream v => exact Bare.run_done v stream.feed
  | case2 stream reading hundone failure stream' hpeek =>
      rw [Bare.run_of_undone (Reading.bare_ne_done hundone), bare_peek, hpeek]
      rfl
  | case3 stream reading hundone token stream' hpeek expecting hstep =>
      rw [Bare.run_of_undone (Reading.bare_ne_done hundone), bare_peek, hpeek, fed_ok]
      simp only [Reading.bare_step, hstep]
      rfl
  | case4 stream reading hundone token stream' hpeek reading' hstep ih =>
      rw [Bare.run_of_undone (Reading.bare_ne_done hundone), bare_peek, hpeek, fed_ok]
      simp only [Reading.bare_step, hstep, Reading.bareOutcome, bare_take hpeek]
      exact ih

/-- Reading a text comes to no fault, and the bare reader reads what is
read. -/
theorem bare_read (text : List Char) : Bare.read text = faultless (read text) := by
  have hrun : Bare.run (.form []) ⟨none, lex text⟩ =
      fed ((Reading.form []).run (.ofText text)) := bare_run (.form []) (.ofText text)
  rw [Bare.read, hrun, read, TokenStream.readExpression]
  rcases (Reading.form []).run (.ofText text) with ⟨outcome, stream⟩
  cases outcome with
  | error failure => rfl
  | ok v =>
      simp only [fed_ok, bare_expect]
      rcases stream.expect .endOfInput "end of input" with ⟨outcome, stream'⟩
      cases outcome with
      | error failure => rfl
      | ok token => rfl

end PocketScheme
