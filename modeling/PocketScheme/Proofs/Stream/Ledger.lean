/-
Account kept of the tokens of a stream.

A ledger is a stream that has its books open. Each page says which tokens
were taken, which were looked at and wait, and what the lexer still has
to give; a look that asks the lexer starts a new page, and so does a
taking, so that the pages are all the moments of a run, those inside a
reading included. A ledger could go wrong where a stream cannot. The
tokens that wait are a list, which may grow; a taking moves what waits in
front, whatever was looked at; and the lexer gives each token once, that
for the end of the input as well, so that asking on is a fault.

# The books are right

`Ledger.IsOf` says that a ledger is the one of a stream and that all of
its pages balance: at most one token waits, and taken, waiting and still
to come are together the tokens of the text, in their order, with the end
of the input not among those taken. A look and a taking keep this
(`IsOf.peek`, `IsOf.take`), hence a whole reading does (`IsOf.run`), and
every run of requests (`IsOf.requests`). On the way the ledger gives
the answers of the stream, and since these are never faults, nor are
those.

# The end stays

Where the end of the input waits, it goes on waiting. Each request
leaves the stream as it is (`perform_of_atEnd`), and a ledger has the end
in front from the first page on which it waits.
-/
import PocketScheme.Proofs.Fault.Reading
import PocketScheme.Proofs.Stream.Request

namespace PocketScheme

-- ============================================================ the ledger

/-- The tokens taken from a stream, those that wait in it, and what the
lexer still has to give. -/
structure Page where
  taken : List Token
  waiting : List Token
  coming : Lexing

/-- A page, and those before it, the last one in front. -/
structure Ledger where
  page : Page
  earlier : List Page

namespace Ledger

/-- The ledger of a text, of which nothing is taken. -/
def ofText (text : List Char) : Ledger := ⟨⟨[], [], lex text⟩, []⟩

/-- All the pages. -/
def pages (ledger : Ledger) : List Page := ledger.page :: ledger.earlier

/-- Goes on with a new page. -/
def turn (page : Page) (ledger : Ledger) : Ledger := ⟨page, ledger.pages⟩

/-- The next token. The lexer is asked for it only if none waits. -/
def peek (ledger : Ledger) : Except Stop Token × Ledger :=
  match ledger.page.waiting with
  | token :: _ => (.ok token, ledger)
  | [] =>
    match Bare.supply ledger.page.coming with
    | .ok (token, coming) =>
      (.ok token, ledger.turn ⟨ledger.page.taken, ledger.page.waiting ++ [token], coming⟩)
    | .error stop => (.error stop, ledger)

/-- Takes the first token that waits; the end of the input stays. -/
def take (token : Token) (ledger : Ledger) : Ledger :=
  if token.kind = .endOfInput then ledger
  else ledger.turn ⟨ledger.page.taken ++ ledger.page.waiting.take 1, ledger.page.waiting.drop 1,
    ledger.page.coming⟩

/-- The next token, which is taken. -/
def advance (ledger : Ledger) : Except Stop Token × Ledger :=
  match ledger.peek with
  | (.ok token, ledger) => (.ok token, ledger.take token)
  | refused => refused

/-- The next token, which has to be of a kind to be taken. -/
def expect (kind : Kind) (expecting : String) (ledger : Ledger) : Except Stop Token × Ledger :=
  match ledger.peek with
  | (.ok token, ledger) =>
    if token.kind = kind then (.ok token, ledger.take token)
    else (.error (.failure (token.unexpected expecting)), ledger)
  | refused => refused

/-- The number of tokens to come, counted twice, and of those that
wait. -/
def weight (ledger : Ledger) : Nat :=
  2 * ledger.page.coming.tokens.length + ledger.page.waiting.length

theorem weight_take_lt {ledger ledger' : Ledger} {token : Token}
    (h : ledger.peek = (.ok token, ledger')) (hkind : token.kind ≠ .endOfInput) :
    (ledger'.take token).weight < ledger.weight := by
  obtain ⟨⟨taken, waiting, tokens, failure⟩, earlier⟩ := ledger
  cases waiting with
  | cons first waiting =>
      cases h
      simp [take, turn, weight, hkind]
  | nil =>
      cases tokens with
      | cons next tokens =>
          cases h
          simp [take, turn, weight, hkind]
      | nil => cases failure <;> cases h

/-- Takes tokens until the expression is read. -/
def run (reading : Reading) (ledger : Ledger) : Except Stop Value × Ledger :=
  match reading with
  | .done v => (.ok v, ledger)
  | reading =>
    match _hpeek : ledger.peek with
    | (.error stop, ledger') => (.error stop, ledger')
    | (.ok token, ledger') =>
      match _hstep : reading.step token with
      | .error expecting => (.error (.failure (token.unexpected expecting)), ledger')
      | .ok reading' => run reading' (ledger'.take token)
termination_by ledger.weight
decreasing_by
  refine weight_take_lt ‹_› fun hend => ?_
  obtain ⟨expecting, hrefused⟩ := Reading.step_endOfInput hend reading
  rw [hrefused] at _hstep
  cases _hstep

/-- What a ledger answers to a request, and the ledger after it. -/
def perform (request : Request) (ledger : Ledger) : Except Stop Answer × Ledger :=
  match request with
  | .peek => ledger.peek.map (Except.map .token) id
  | .advance => ledger.advance.map (Except.map .token) id
  | .expect kind expecting => (ledger.expect kind expecting).map (Except.map .token) id
  | .readExpression => (run (.form []) ledger).map (Except.map .value) id
  | .readList => (run (.opened []) ledger).map (Except.map .value) id

theorem run_done (v : Value) (ledger : Ledger) : run (.done v) ledger = (.ok v, ledger) := by
  rw [run]

/-- A run that is not at its end looks at a token and takes a step. -/
theorem run_of_undone {reading : Reading} (hundone : ∀ v, reading ≠ .done v) (ledger : Ledger) :
    run reading ledger =
      match ledger.peek with
      | (.error stop, ledger') => (.error stop, ledger')
      | (.ok token, ledger') =>
        match reading.step token with
        | .error expecting => (.error (.failure (token.unexpected expecting)), ledger')
        | .ok reading' => run reading' (ledger'.take token) := by
  rw [run.eq_2 reading ledger hundone]
  split
  · simp_all
  · split <;> simp_all

end Ledger

-- ==================================================== books that are right

/-- A page balances: at most one token waits, nothing is lost, twice there
or out of order, and the end of the input is not taken. -/
structure Page.Balances (text : List Char) (page : Page) : Prop where
  single : page.waiting.length ≤ 1
  complete : page.taken ++ page.waiting ++ page.coming.tokens = (lex text).tokens
  failure : page.coming.failure = (lex text).failure
  taken : ∀ token ∈ page.taken, token.kind ≠ .endOfInput

/-- The ledger of a stream on a text. All of its pages balance, and the
end of the input, once it waits, waits in the stream. -/
structure Ledger.IsOf (text : List Char) (stream : TokenStream) (ledger : Ledger) : Prop where
  waiting : ledger.page.waiting = stream.ahead.toList
  coming : ledger.page.coming = stream.feed.coming
  balances : ∀ page ∈ ledger.pages, page.Balances text
  met : ∀ page ∈ ledger.pages, ∀ token ∈ page.waiting, token.kind = .endOfInput →
    stream.ahead = some token

/-- What a ledger answers is what the stream answers, and it is the ledger
of the stream afterwards. -/
structure Ledger.Follows {α : Type} (text : List Char) (answer : Except Failure α × TokenStream)
    (booked : Except Stop α × Ledger) : Prop where
  same : booked.1 = faultless answer.1
  isOf : booked.2.IsOf text answer.2

/-- What the lexer gives is the first of what it had to give. -/
theorem Bare.lexing_of_supply {coming coming' : Lexing} {token : Token}
    (h : supply coming = .ok (token, coming')) :
    coming.tokens = token :: coming'.tokens ∧ coming.failure = coming'.failure := by
  obtain ⟨tokens, failure⟩ := coming
  cases tokens with
  | cons first tokens =>
      cases h
      exact ⟨rfl, rfl⟩
  | nil => cases failure <;> cases h

namespace Ledger

variable {text : List Char} {stream : TokenStream} {ledger : Ledger} {token : Token}

theorem isOf_ofText (text : List Char) : (ofText text).IsOf text (.ofText text) where
  waiting := rfl
  coming := rfl
  balances page hpage := by
    obtain rfl : page = ⟨[], [], lex text⟩ := List.mem_singleton.1 hpage
    exact ⟨Nat.zero_le 1, rfl, rfl, by simp⟩
  met page hpage := by
    obtain rfl : page = ⟨[], [], lex text⟩ := List.mem_singleton.1 hpage
    simp

theorem IsOf.current (h : ledger.IsOf text stream) : ledger.page.Balances text :=
  h.balances _ (.head _)

/-- A new page keeps the books right if it balances and the end of the
input still waits. -/
theorem IsOf.turn (h : ledger.IsOf text stream) {page : Page} {stream' : TokenStream}
    (hwaiting : page.waiting = stream'.ahead.toList) (hcoming : page.coming = stream'.feed.coming)
    (hbalances : page.Balances text)
    (hend : ∀ token, token.kind = .endOfInput → stream.ahead ≠ some token) :
    (ledger.turn page).IsOf text stream' where
  waiting := hwaiting
  coming := hcoming
  balances := List.forall_mem_cons.2 ⟨hbalances, h.balances⟩
  met := by
    refine List.forall_mem_cons.2 ⟨fun token hmem _ => ?_, fun page' hpage token hmem hkind => ?_⟩
    · have hfirst : token ∈ page.waiting := hmem
      rw [hwaiting] at hfirst
      exact Option.mem_toList.1 hfirst
    · exact absurd (h.met page' hpage token hmem hkind) (hend token hkind)

/-- A look is a look on both sides. The lexer is asked on both sides or
on neither. -/
theorem IsOf.peek (h : ledger.IsOf text stream) : Follows text stream.peek ledger.peek := by
  obtain ⟨ahead, cursor⟩ := stream
  have hwaiting := h.waiting
  cases ahead with
  | some token =>
      have hpeek : ledger.peek = (.ok token, ledger) := by
        rw [Ledger.peek, hwaiting]
        rfl
      rw [hpeek]
      exact ⟨rfl, h⟩
  | none =>
      have hcoming : ledger.page.coming = cursor.lex := h.coming
      have hsupply := supply_lex cursor
      rw [Ledger.peek, hwaiting, hcoming]
      cases hnext : cursor.next with
      | error failure =>
          rw [hnext] at hsupply
          simp only [TokenStream.peek, Option.toList, hnext, hsupply]
          exact ⟨rfl, h⟩
      | ok found =>
          obtain ⟨token, after⟩ := found
          rw [hnext] at hsupply
          simp only [TokenStream.peek, Option.toList, hnext, hsupply]
          obtain ⟨htokens, hfailure⟩ := Bare.lexing_of_supply hsupply
          have hpage := h.current
          refine ⟨rfl, h.turn rfl rfl ⟨Nat.le_refl 1, ?_, ?_, hpage.taken⟩ (by simp)⟩
          · have hall := hpage.complete
            rw [hwaiting, hcoming, htokens] at hall
            simpa using hall
          · rw [← hfailure, ← hcoming]
            exact hpage.failure

/-- The token that waits is taken on both sides, and the end of the input
on neither. -/
theorem IsOf.take (h : ledger.IsOf text stream) (hahead : stream.ahead = some token) :
    (ledger.take token).IsOf text (stream.take token) := by
  by_cases hend : token.kind = .endOfInput
  · rw [Ledger.take, TokenStream.take, if_pos hend, if_pos hend]
    exact h
  · have hwaiting := h.waiting
    have hcoming := h.coming
    have hpage := h.current
    rw [Ledger.take, TokenStream.take, if_neg hend, if_neg hend]
    rw [hahead] at hwaiting
    refine h.turn ?_ ?_ ⟨?_, ?_, hpage.failure, ?_⟩ fun token' hkind hahead' => ?_
    · rw [hwaiting]
      rfl
    · rw [hcoming, TokenStream.feed, hahead]
      simp [TokenStream.feed, hend]
    · simp [hwaiting]
    · have hall := hpage.complete
      rw [hwaiting] at hall ⊢
      simpa using hall
    · rw [hwaiting]
      intro token' hmem
      rcases List.mem_append.1 hmem with htaken | hfirst
      · exact hpage.taken token' htaken
      · obtain rfl : token' = token := List.mem_singleton.1 hfirst
        exact hend
    · rw [hahead] at hahead'
      cases hahead'
      exact hend hkind

/-- A look that fails does so on both sides. -/
theorem IsOf.peek_of_error (h : ledger.IsOf text stream) {failure : Failure}
    {stream' : TokenStream} (hpeek : stream.peek = (.error failure, stream')) :
    ∃ ledger', ledger.peek = (.error (.failure failure), ledger') ∧ ledger'.IsOf text stream' := by
  obtain ⟨hsame, hisOf⟩ := h.peek
  rcases hbooked : ledger.peek with ⟨outcome, ledger'⟩
  rw [hpeek, hbooked] at hsame hisOf
  cases hsame
  exact ⟨ledger', rfl, hisOf⟩

/-- A look that finds a token finds it on both sides, and it can be
taken. -/
theorem IsOf.peek_of_ok (h : ledger.IsOf text stream) {stream' : TokenStream}
    (hpeek : stream.peek = (.ok token, stream')) :
    ∃ ledger', ledger.peek = (.ok token, ledger') ∧ ledger'.IsOf text stream'
      ∧ (ledger'.take token).IsOf text (stream'.take token) := by
  obtain ⟨hsame, hisOf⟩ := h.peek
  rcases hbooked : ledger.peek with ⟨outcome, ledger'⟩
  rw [hpeek, hbooked] at hsame hisOf
  cases hsame
  exact ⟨ledger', rfl, hisOf, hisOf.take (TokenStream.ahead_of_peek hpeek)⟩

theorem IsOf.advance (h : ledger.IsOf text stream) :
    Follows text stream.advance ledger.advance := by
  rw [TokenStream.advance, Ledger.advance]
  rcases hpeek : stream.peek with ⟨failure | token, stream'⟩
  · obtain ⟨ledger', hbooked, hisOf⟩ := h.peek_of_error hpeek
    rw [hbooked]
    exact ⟨rfl, hisOf⟩
  · obtain ⟨ledger', hbooked, -, htaken⟩ := h.peek_of_ok hpeek
    rw [hbooked]
    exact ⟨rfl, htaken⟩

theorem IsOf.expect (h : ledger.IsOf text stream) (kind : Kind) (expecting : String) :
    Follows text (stream.expect kind expecting) (ledger.expect kind expecting) := by
  rw [TokenStream.expect, Ledger.expect]
  rcases hpeek : stream.peek with ⟨failure | token, stream'⟩
  · obtain ⟨ledger', hbooked, hisOf⟩ := h.peek_of_error hpeek
    rw [hbooked]
    exact ⟨rfl, hisOf⟩
  · obtain ⟨ledger', hbooked, hisOf, htaken⟩ := h.peek_of_ok hpeek
    rw [hbooked]
    by_cases hkind : token.kind = kind
    · simp only [if_pos hkind]
      exact ⟨rfl, htaken⟩
    · simp only [if_neg hkind]
      exact ⟨rfl, hisOf⟩

/-- A reading goes on with the same tokens on both sides, to its end. -/
theorem IsOf.run (h : ledger.IsOf text stream) (reading : Reading) :
    Follows text (reading.run stream) (Ledger.run reading ledger) := by
  -- along the run: each case is one look at the stream and one step
  fun_induction Reading.run reading stream generalizing ledger with
  | case1 stream v =>
      rw [Ledger.run_done]
      exact ⟨rfl, h⟩
  | case2 stream reading hundone failure stream' hpeek =>
      obtain ⟨ledger', hbooked, hisOf⟩ := h.peek_of_error hpeek
      rw [Ledger.run_of_undone hundone, hbooked]
      exact ⟨rfl, hisOf⟩
  | case3 stream reading hundone token stream' hpeek expecting hstep =>
      obtain ⟨ledger', hbooked, hisOf, -⟩ := h.peek_of_ok hpeek
      rw [Ledger.run_of_undone hundone, hbooked]
      simp only [hstep]
      exact ⟨rfl, hisOf⟩
  | case4 stream reading hundone token stream' hpeek reading' hstep ih =>
      obtain ⟨ledger', hbooked, -, htaken⟩ := h.peek_of_ok hpeek
      rw [Ledger.run_of_undone hundone, hbooked]
      simp only [hstep]
      exact ih htaken

theorem Follows.map {α : Type} {answer : Except Failure α × TokenStream}
    {booked : Except Stop α × Ledger} (h : Follows text answer booked) (give : α → Answer) :
    Follows text (answer.map (Except.map give) id) (booked.map (Except.map give) id) := by
  obtain ⟨outcome, stream⟩ := answer
  obtain ⟨outcome', ledger⟩ := booked
  obtain ⟨hsame, hisOf⟩ := h
  refine ⟨?_, hisOf⟩
  obtain rfl : outcome' = faultless outcome := hsame
  cases outcome with
  | error failure => rfl
  | ok a => rfl

theorem IsOf.perform (h : ledger.IsOf text stream) (request : Request) :
    Follows text (stream.perform request) (ledger.perform request) := by
  cases request with
  | peek => exact h.peek.map .token
  | advance => exact h.advance.map .token
  | expect kind expecting => exact (h.expect kind expecting).map .token
  | readExpression => exact (h.run (.form [])).map .value
  | readList => exact (h.run (.opened [])).map .value

/-- Along a run of requests the ledger answers what the stream answers,
and the books stay right. -/
theorem IsOf.requests (h : ledger.IsOf text stream) (requests : List Request) :
    (performAll Ledger.perform requests ledger).1 =
        (performAll TokenStream.perform requests stream).1.map faultless
      ∧ (performAll Ledger.perform requests ledger).2.IsOf text
          (performAll TokenStream.perform requests stream).2 := by
  induction requests generalizing stream ledger with
  | nil => exact ⟨rfl, h⟩
  | cons request more ih =>
      obtain ⟨hsame, hisOf⟩ := h.perform request
      rcases hstream : stream.perform request with ⟨outcome, stream'⟩
      rcases hledger : ledger.perform request with ⟨outcome', ledger'⟩
      rw [hstream, hledger] at hsame hisOf
      cases hsame
      cases outcome with
      | error failure =>
          rw [performAll_cons_of_error hstream, performAll_cons_of_error hledger]
          exact ⟨rfl, hisOf⟩
      | ok answer =>
          obtain ⟨hanswers, hlast⟩ := ih hisOf
          rw [performAll_cons_of_ok hstream, performAll_cons_of_ok hledger, hanswers]
          exact ⟨rfl, hlast⟩

end Ledger

-- ============================================================ the end stays

namespace TokenStream

variable {stream : TokenStream} {token : Token}

theorem peek_of_ahead (hahead : stream.ahead = some token) :
    stream.peek = (.ok token, stream) := by
  rw [peek, hahead]

/-- A reading fails at the end of the input, which stays. -/
theorem run_of_atEnd (hahead : stream.ahead = some token) (hend : token.kind = .endOfInput)
    (reading : Reading) : (reading.run stream).2 = stream := by
  by_cases hdone : ∃ v, reading = .done v
  · obtain ⟨v, rfl⟩ := hdone
    rw [Reading.run]
  · obtain ⟨expecting, hstep⟩ := Reading.step_endOfInput hend reading
    rw [Reading.run_of_step_error (fun v hv => hdone ⟨v, hv⟩) (peek_of_ahead hahead) hstep]

/-- The end of the input is the answer to whoever looks, takes or expects
it. -/
theorem answers_of_atEnd (hahead : stream.ahead = some token) (hend : token.kind = .endOfInput)
    (expecting : String) :
    stream.perform .peek = (.ok (.token token), stream)
      ∧ stream.perform .advance = (.ok (.token token), stream)
      ∧ stream.perform (.expect .endOfInput expecting) = (.ok (.token token), stream) := by
  have hpeek := peek_of_ahead hahead
  have htake : stream.take token = stream := if_pos hend
  refine ⟨?_, ?_, ?_⟩
  · rw [perform, hpeek]
    rfl
  · rw [perform, advance, hpeek]
    simp only [htake]
    rfl
  · rw [perform, expect, hpeek]
    simp only [if_pos hend, htake]
    rfl

/-- Where the end of the input waits, no request changes the stream. -/
theorem perform_of_atEnd (hahead : stream.ahead = some token) (hend : token.kind = .endOfInput)
    (request : Request) : (stream.perform request).2 = stream := by
  cases request with
  | peek => exact congrArg Prod.snd (answers_of_atEnd hahead hend "").1
  | advance => exact congrArg Prod.snd (answers_of_atEnd hahead hend "").2.1
  | expect kind expecting =>
      by_cases hkind : token.kind = kind
      · rw [← hkind, hend]
        exact congrArg Prod.snd (answers_of_atEnd hahead hend expecting).2.2
      · rw [perform, expect, peek_of_ahead hahead]
        simp only [if_neg hkind]
        rfl
  | readExpression => exact run_of_atEnd hahead hend (.form [])
  | readList => exact run_of_atEnd hahead hend (.opened [])

theorem performAll_of_atEnd (hahead : stream.ahead = some token)
    (hend : token.kind = .endOfInput) (requests : List Request) :
    (performAll perform requests stream).2 = stream := by
  induction requests with
  | nil => rfl
  | cons request more ih =>
      have hstays := perform_of_atEnd hahead hend request
      rcases hperform : stream.perform request with ⟨failure | answer, after⟩
      · rw [performAll_cons_of_error hperform]
        rwa [hperform] at hstays
      · rw [hperform] at hstays
        obtain rfl : after = stream := hstays
        rw [performAll_cons_of_ok hperform]
        exact ih

/-- A token that is an answer was waiting, and the end of the input still
does. -/
theorem ahead_of_answer {request : Request} {after : TokenStream}
    (h : stream.perform request = (.ok (.token token), after)) (hend : token.kind = .endOfInput) :
    after.ahead = some token := by
  have value_ne_token (result : Except Failure Value × TokenStream) :
      result.map (Except.map Answer.value) id ≠ (.ok (Answer.token token), after) := by
    intro hvalue
    obtain ⟨failure | v, stream'⟩ := result
    · cases hvalue
    · cases hvalue
  rcases hpeek : stream.peek with ⟨failure | first, looked⟩
  · rw [perform_of_peek_error hpeek] at h
    cases h
  · have hahead := ahead_of_peek hpeek
    cases request with
    | peek =>
        rw [perform, hpeek] at h
        cases h
        exact hahead
    | advance =>
        rw [perform, advance, hpeek] at h
        cases h
        rwa [take, if_pos hend]
    | expect kind expecting =>
        rw [perform, expect, hpeek] at h
        by_cases hkind : first.kind = kind
        · simp only [if_pos hkind] at h
          cases h
          rwa [take, if_pos hend]
        · simp only [if_neg hkind] at h
          cases h
    | readExpression => exact absurd h (value_ne_token stream.readExpression)
    | readList => exact absurd h (value_ne_token stream.readList)

/-- The end of the input, once it is an answer, waits to the end of the
run. -/
theorem ahead_of_mem_answers {requests : List Request}
    (h : .ok (.token token) ∈ (performAll perform requests stream).1)
    (hend : token.kind = .endOfInput) :
    (performAll perform requests stream).2.ahead = some token := by
  induction requests generalizing stream with
  | nil => cases h
  | cons request more ih =>
      rcases hperform : stream.perform request with ⟨failure | answer, after⟩
      · rw [performAll_cons_of_error hperform] at h
        rcases List.mem_singleton.1 h with ⟨⟩
      · rw [performAll_cons_of_ok hperform] at h ⊢
        rcases List.mem_cons.1 h with hfirst | hmore
        · cases hfirst
          have hahead := ahead_of_answer hperform hend
          rw [performAll_of_atEnd hahead hend]
          exact hahead
        · exact ih hmore

end TokenStream

-- ======================================================== runs of requests

/-- A look takes nothing. -/
theorem Ledger.taken_peek (ledger : Ledger) : ledger.peek.2.page.taken = ledger.page.taken := by
  rw [peek]
  split
  · rfl
  · split
    · rfl
    · rfl

/-- A token of the wrong kind is not taken. It waits, and a ledger has
the same tokens taken as before. -/
theorem Ledger.IsOf.expect_of_kind_ne {text : List Char} {stream looked : TokenStream}
    {ledger : Ledger} {token : Token} (h : ledger.IsOf text stream)
    (hpeek : stream.peek = (.ok token, looked)) {kind : Kind} (hkind : token.kind ≠ kind)
    (expecting : String) :
    stream.expect kind expecting = (.error (token.unexpected expecting), looked)
      ∧ looked.ahead = some token
      ∧ (ledger.expect kind expecting).2.page.taken = ledger.page.taken := by
  refine ⟨?_, TokenStream.ahead_of_peek hpeek, ?_⟩
  · rw [TokenStream.expect, hpeek]
    exact if_neg hkind
  · obtain ⟨ledger', hbooked, -⟩ := h.peek_of_ok hpeek
    have htaken := ledger.taken_peek
    rw [hbooked] at htaken
    rw [Ledger.expect, hbooked]
    simp only [if_neg hkind]
    exact htaken

/-- The account of any run of requests on the stream of a text, up to the
first that fails. There is a ledger that answers the same, which keeps
all of its pages balanced and never asks the lexer for a token too many.
The end of the input, once it is seen, is what a look, a taking and an
expectation of it find, whatever is asked for in between. A token of
another kind than the expected one is not taken. And a look that is added
anywhere goes unnoticed. -/
theorem stream_accounts_for_tokens (text : List Char) (requests : List Request) :
    let run := performAll TokenStream.perform requests (.ofText text)
    let books := performAll Ledger.perform requests (.ofText text)
    (books.2.IsOf text run.2 ∧ books.1 = run.1.map faultless)
      ∧ (∀ fault, .error (.fault fault) ∉ books.1)
      ∧ (∀ token, token.kind = .endOfInput →
          (.ok (.token token) ∈ run.1 ∨ ∃ page ∈ books.2.pages, token ∈ page.waiting) →
          ∀ later expecting, (performAll TokenStream.perform later run.2).2 = run.2
            ∧ run.2.perform .peek = (.ok (.token token), run.2)
            ∧ run.2.perform .advance = (.ok (.token token), run.2)
            ∧ run.2.perform (.expect .endOfInput expecting) = (.ok (.token token), run.2))
      ∧ (∀ token looked kind expecting, run.2.peek = (.ok token, looked) → token.kind ≠ kind →
          run.2.expect kind expecting = (.error (token.unexpected expecting), looked)
            ∧ looked.ahead = some token
            ∧ (books.2.expect kind expecting).2.page.taken = books.2.page.taken)
      ∧ (∀ before request after, requests = before ++ request :: after →
          let looked := performAll TokenStream.perform (before ++ .peek :: request :: after)
            (.ofText text)
          TokenStream.WithLook before.length run.1 looked.1 ∧ looked.2 = run.2) := by
  intro run books
  obtain ⟨hanswers, hisOf⟩ := (Ledger.isOf_ofText text).requests requests
  refine ⟨⟨hisOf, hanswers⟩, ?_, ?_, ?_, ?_⟩
  · intro fault hmem
    rw [hanswers] at hmem
    obtain ⟨answer, -, hfault⟩ := List.mem_map.1 hmem
    exact faultless_ne_fault answer fault hfault
  · intro token hend hmet later expecting
    have hahead : run.2.ahead = some token := by
      rcases hmet with hanswer | ⟨page, hpage, hwaits⟩
      · exact TokenStream.ahead_of_mem_answers hanswer hend
      · exact hisOf.met page hpage token hwaits hend
    exact ⟨TokenStream.performAll_of_atEnd hahead hend later,
      TokenStream.answers_of_atEnd hahead hend expecting⟩
  · intro token looked kind expecting hpeek hkind
    exact hisOf.expect_of_kind_ne hpeek hkind expecting
  · rintro before request after rfl
    exact TokenStream.performAll_look before request after (.ofText text)

end PocketScheme
