/-
Requests to a stream, made one after the other: to show the next token,
to give it, to give it if it is of a kind, to read an expression, to
read the rest of a list. A run of requests ends with the first that
fails.

# A look goes unnoticed

Whatever is asked for, the stream looks at its next token first, and a
token that was looked at is the one that the next look finds
(`peek_peek`). So a look in front of a request changes neither its answer
nor the stream after it (`perform_peek`), and a look that is added
somewhere in a run of requests adds its own answer and nothing else
(`performAll_look`).

# Where a stream can be

For the same reason there is little that a stream can have become after
requests that it answered (`Reachable`). What is not yet taken is an end
of its text, and all further requests are answered as by a new stream on
that end of the text, whether its first token waits or not
(`Reachable.exists_standsAt`).
-/
import PocketScheme.Proofs.Position
import PocketScheme.Proofs.Reading.Machine

namespace PocketScheme

-- ============================================================== requests

/-- What a stream can be asked for. -/
inductive Request where
  /-- The next token, which stays. -/
  | peek
  /-- The next token. -/
  | advance
  /-- The next token, if it is of a kind. -/
  | expect (kind : Kind) (expecting : String)
  /-- An expression. -/
  | readExpression
  /-- The rest of a list. -/
  | readList
  deriving DecidableEq, Repr

/-- What a request is answered with. -/
inductive Answer where
  | token (token : Token)
  | value (v : Value)
  deriving DecidableEq, Repr

/-- Requests made one after the other, up to the first that fails: the
answers, that one included, and the state that is left. -/
def performAll {ε σ : Type} (perform : Request → σ → Except ε Answer × σ) :
    List Request → σ → List (Except ε Answer) × σ
  | [], state => ([], state)
  | request :: more, state =>
    match perform request state with
    | (.error failure, after) => ([.error failure], after)
    | (.ok answer, after) =>
      let later := performAll perform more after
      (.ok answer :: later.1, later.2)

section Runs

variable {ε σ : Type} {perform : Request → σ → Except ε Answer × σ} {request : Request}
  {state after : σ}

theorem performAll_cons_of_error {failure : ε} (h : perform request state = (.error failure, after))
    (more : List Request) :
    performAll perform (request :: more) state = ([.error failure], after) := by
  rw [performAll, h]

theorem performAll_cons_of_ok {answer : Answer} (h : perform request state = (.ok answer, after))
    (more : List Request) :
    performAll perform (request :: more) state =
      (.ok answer :: (performAll perform more after).1, (performAll perform more after).2) := by
  rw [performAll, h]

theorem length_performAll_cons_pos (request : Request) (more : List Request) (state : σ) :
    0 < (performAll perform (request :: more) state).1.length := by
  rcases hperform : perform request state with ⟨failure | answer, after⟩
  · rw [performAll_cons_of_error hperform]
    exact Nat.zero_lt_one
  · rw [performAll_cons_of_ok hperform]
    exact Nat.zero_lt_succ _

end Runs

namespace TokenStream

/-- What a stream answers to a request, and the stream that it leaves. -/
def perform (request : Request) (stream : TokenStream) : Except Failure Answer × TokenStream :=
  match request with
  | .peek => stream.peek.map (Except.map .token) id
  | .advance => stream.advance.map (Except.map .token) id
  | .expect kind expecting => (stream.expect kind expecting).map (Except.map .token) id
  | .readExpression => stream.readExpression.map (Except.map .value) id
  | .readList => stream.readList.map (Except.map .value) id

-- ================================================= a look goes unnoticed

/-- A look at a token does not change what the next look finds. -/
theorem peek_peek (stream : TokenStream) : stream.peek.2.peek = stream.peek := by
  obtain ⟨ahead, cursor⟩ := stream
  cases ahead with
  | some token => rfl
  | none =>
      cases hnext : cursor.next with
      | ok found => simp [peek, hnext]
      | error failure => simp [peek, hnext]

end TokenStream

open TokenStream in
/-- A reading that is not at its end does not notice a look. -/
theorem Reading.run_peek {reading : Reading} (hundone : ∀ v, reading ≠ done v)
    (stream : TokenStream) : reading.run stream.peek.2 = reading.run stream := by
  have hagain := peek_peek stream
  rcases hpeek : stream.peek with ⟨outcome, stream'⟩
  rw [hpeek] at hagain
  cases outcome with
  | error failure => rw [run_of_peek_error hundone hagain, run_of_peek_error hundone hpeek]
  | ok token =>
      cases hstep : reading.step token with
      | error expecting =>
          rw [run_of_step_error hundone hagain hstep, run_of_step_error hundone hpeek hstep]
      | ok reading' => rw [run_of_step_ok hagain hstep, run_of_step_ok hpeek hstep]

namespace TokenStream

/-- No request notices a look in front of it. -/
theorem perform_peek (request : Request) (stream : TokenStream) :
    stream.peek.2.perform request = stream.perform request := by
  cases request with
  | peek => rw [perform, perform, peek_peek]
  | advance => rw [perform, perform, advance, advance, peek_peek]
  | expect kind expecting => rw [perform, perform, expect, expect, peek_peek]
  | readExpression =>
      rw [perform, perform, readExpression, readExpression, Reading.run_peek (by simp)]
  | readList => rw [perform, perform, readList, readList, Reading.run_peek (by simp)]

/-- Every request fails where a look fails, and in the same way. -/
theorem perform_of_peek_error {stream after : TokenStream} {failure : Failure}
    (h : stream.peek = (.error failure, after)) (request : Request) :
    stream.perform request = (.error failure, after) := by
  cases request with
  | peek => rw [perform, h]; rfl
  | advance => rw [perform, advance, h]; rfl
  | expect kind expecting => rw [perform, expect, h]; rfl
  | readExpression =>
      rw [perform, readExpression, Reading.run_of_peek_error (by simp) h]
      rfl
  | readList =>
      rw [perform, readList, Reading.run_of_peek_error (by simp) h]
      rfl

/-- A run of requests to which a look was added: there is one answer more,
which is a token, or the look is not made, or it fails where the run fails
anyway. -/
def WithLook (place : Nat) (answers looked : List (Except Failure Answer)) : Prop :=
  (place < answers.length
      ∧ ∃ token, looked = answers.take place ++ .ok (.token token) :: answers.drop place)
    ∨ (answers.length ≤ place + 1 ∧ looked = answers
      ∧ ∃ failure, answers.getLast? = some (.error failure))

/-- A look that is added to a run of requests changes no other answer, and
not the stream that is left. -/
theorem performAll_look (before : List Request) (request : Request) (after : List Request)
    (stream : TokenStream) :
    WithLook before.length (performAll perform (before ++ request :: after) stream).1
        (performAll perform (before ++ .peek :: request :: after) stream).1
      ∧ (performAll perform (before ++ .peek :: request :: after) stream).2 =
          (performAll perform (before ++ request :: after) stream).2 := by
  induction before generalizing stream with
  | nil =>
      rcases hpeek : stream.peek with ⟨failure | token, looked⟩
      · have hfails := perform_of_peek_error hpeek
        rw [List.nil_append, List.nil_append, performAll_cons_of_error (hfails .peek),
          performAll_cons_of_error (hfails request)]
        exact ⟨.inr ⟨Nat.le_refl 1, rfl, failure, rfl⟩, rfl⟩
      · have hlook : stream.perform .peek = (.ok (.token token), looked) := by
          rw [perform, hpeek]
          rfl
        have hsame : performAll perform (request :: after) looked =
            performAll perform (request :: after) stream := by
          have hunnoticed := perform_peek request stream
          rw [hpeek] at hunnoticed
          rw [performAll, performAll, hunnoticed]
        rw [List.nil_append, List.nil_append, performAll_cons_of_ok hlook, hsame]
        refine ⟨.inl ⟨?_, token, rfl⟩, rfl⟩
        exact length_performAll_cons_pos request after stream
  | cons first before ih =>
      rcases hfirst : stream.perform first with ⟨failure | answer, stream'⟩
      · rw [List.cons_append, List.cons_append, performAll_cons_of_error hfirst,
          performAll_cons_of_error hfirst]
        exact ⟨.inr ⟨by simp, rfl, failure, rfl⟩, rfl⟩
      · obtain ⟨hanswers, hleft⟩ := ih stream'
        rw [List.cons_append, List.cons_append, performAll_cons_of_ok hfirst,
          performAll_cons_of_ok hfirst]
        refine ⟨?_, hleft⟩
        rcases hanswers with ⟨hplace, token, hlooked⟩ | ⟨hplace, hlooked, failure, hlast⟩
        · exact .inl ⟨Nat.succ_lt_succ hplace, token, congrArg (.ok answer :: ·) hlooked⟩
        · refine .inr ⟨Nat.succ_le_succ hplace, congrArg (.ok answer :: ·) hlooked, failure, ?_⟩
          rw [List.getLast?_cons, hlast]
          rfl

-- ================================================== where a stream can be

/-- The part of the text that is not yet taken. A token that was only
looked at belongs to it. -/
def unconsumed (stream : TokenStream) : List Char :=
  stream.ahead.elim [] Token.text ++ stream.cursor.rest

/-- The streams that are left when requests on a text were answered. -/
inductive Reachable (text : List Char) : TokenStream → Prop where
  | start : Reachable text (ofText text)
  | answered {request : Request} {answer : Answer} {stream after : TokenStream} :
      Reachable text stream → stream.perform request = (.ok answer, after) → Reachable text after

/-- A stream at a place, with a rest of the text to take. Its first token
may wait. -/
def StandsAt (p : Position) (rest : List Char) (stream : TokenStream) : Prop :=
  stream = startingAt p rest ∨ stream = (startingAt p rest).peek.2

variable {p : Position} {rest : List Char} {stream : TokenStream}

theorem StandsAt.perform_eq (h : StandsAt p rest stream) (request : Request) :
    stream.perform request = (startingAt p rest).perform request := by
  rcases h with rfl | rfl
  · rfl
  · exact perform_peek request _

theorem StandsAt.unconsumed_eq (h : StandsAt p rest stream) : stream.unconsumed = rest := by
  rcases h with rfl | rfl
  · rfl
  · cases hfirst : Lexeme.first? rest with
    | some lexeme =>
        rw [peek_of_first? hfirst]
        exact Lexeme.text_append_rest hfirst
    | none =>
        cases rest with
        | nil => rfl
        | cons c rest =>
            rw [peek_cons_of_first?_none hfirst]
            rfl

end TokenStream

namespace Reading

open TokenStream

/-- A reading on a text has a value if some front of the text takes it to
its end, and it leaves the rest with no token looked at. -/
theorem run_startingAt_eq_ok_iff {reading : Reading} {p : Position} {text : List Char} {v : Value}
    {stream : TokenStream} :
    reading.run (startingAt p text) = (.ok v, stream) ↔
      ∃ taken rest, text = taken ++ rest ∧ Takes rest reading taken (done v)
        ∧ stream = startingAt (p.after taken) rest := by
  constructor
  · intro h
    obtain ⟨taken, rest, reading', rfl, htakes, hhalts⟩ := exists_takes_halts reading text
    rw [run_of_takes htakes] at h
    by_cases hdone : ∃ w, reading' = done w
    · obtain ⟨w, rfl⟩ := hdone
      rw [run] at h
      cases h
      exact ⟨taken, rest, rfl, htakes, rfl⟩
    · obtain ⟨failure, stream', hfails, -⟩ :=
        run_of_halts hhalts (fun w hw => hdone ⟨w, hw⟩) (p.after taken)
      rw [hfails] at h
      cases h
  · rintro ⟨taken, rest, rfl, htakes, rfl⟩
    rw [run_of_takes htakes, run]

end Reading

namespace TokenStream

variable {p : Position} {rest : List Char} {stream after : TokenStream} {token : Token}

/-- A token that is taken moves the stream along by its text, and the end
of the input moves it nowhere. -/
theorem StandsAt.take (h : (startingAt p rest).peek = (.ok token, after)) :
    ∃ rest', rest = token.text ++ rest'
      ∧ StandsAt (p.after token.text) rest' (after.take token) := by
  cases hfirst : Lexeme.first? rest with
  | some lexeme =>
      rw [peek_of_first? hfirst] at h
      cases h
      refine ⟨lexeme.rest, (Lexeme.text_append_rest hfirst).symm, .inl ?_⟩
      exact if_neg (Lexeme.kind_ne_endOfInput hfirst)
  | none =>
      cases rest with
      | nil =>
          rw [peek_nil] at h
          cases h
          exact ⟨[], rfl, .inr rfl⟩
      | cons c rest =>
          rw [peek_cons_of_first?_none hfirst] at h
          cases h

/-- An answer is given for a front of what was not yet taken, and leaves
the rest. -/
theorem StandsAt.answered (h : StandsAt p rest stream) {request : Request} {answer : Answer}
    (hanswer : stream.perform request = (.ok answer, after)) :
    ∃ taken rest', rest = taken ++ rest' ∧ StandsAt (p.after taken) rest' after := by
  rw [h.perform_eq] at hanswer
  have hread {reading : Reading}
      (hrun : (reading.run (startingAt p rest)).map (Except.map .value) id = (.ok answer, after)) :
      ∃ taken rest', rest = taken ++ rest' ∧ StandsAt (p.after taken) rest' after := by
    rcases hresult : reading.run (startingAt p rest) with ⟨outcome, stream'⟩
    rw [hresult] at hrun
    cases outcome with
    | error failure => cases hrun
    | ok v =>
        cases hrun
        obtain ⟨taken, rest', rfl, -, rfl⟩ := Reading.run_startingAt_eq_ok_iff.1 hresult
        exact ⟨taken, rest', rfl, .inl rfl⟩
  rcases hpeek : (startingAt p rest).peek with ⟨outcome, looked⟩
  cases outcome with
  | error failure =>
      rw [perform_of_peek_error hpeek] at hanswer
      cases hanswer
  | ok token =>
      obtain ⟨rest', hrest, htaken⟩ := StandsAt.take hpeek
      cases request with
      | peek =>
          rw [perform, hpeek] at hanswer
          cases hanswer
          refine ⟨[], rest, rfl, .inr ?_⟩
          rw [Position.after_nil, hpeek]
          rfl
      | advance =>
          rw [perform, advance, hpeek] at hanswer
          cases hanswer
          exact ⟨token.text, rest', hrest, htaken⟩
      | expect kind expecting =>
          rw [perform, expect, hpeek] at hanswer
          by_cases hkind : token.kind = kind
          · simp only [if_pos hkind] at hanswer
            cases hanswer
            exact ⟨token.text, rest', hrest, htaken⟩
          · simp only [if_neg hkind] at hanswer
            cases hanswer
      | readExpression => exact hread hanswer
      | readList => exact hread hanswer

/-- What is not yet taken is an end of the text, and the stream stands
where it starts. -/
theorem Reachable.exists_standsAt {text : List Char} (h : Reachable text stream) :
    ∃ passed rest, text = passed ++ rest ∧ StandsAt (.endOf passed) rest stream := by
  induction h with
  | start => exact ⟨[], text, rfl, .inl rfl⟩
  | answered _ hanswer ih =>
      obtain ⟨passed, rest, rfl, hstands⟩ := ih
      obtain ⟨taken, rest', rfl, hafter⟩ := hstands.answered hanswer
      rw [Position.after_endOf] at hafter
      exact ⟨passed ++ taken, rest', (List.append_assoc ..).symm, hafter⟩

end TokenStream

end PocketScheme
