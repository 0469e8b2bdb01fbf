/-
The reading machine on plain text: which lexemes it takes, where it
halts, and that this is all that reading a text does.

`Takes rest reading text reading'` is a stretch of a run: from one state
the machine takes the lexemes that make up a text, in front of a rest,
and is in another state. The rest is there because a lexeme ends where
the text after it does not go on it; of the rest only the first
character matters (`Takes.rest_congr`).

# The characterisation

- `exists_takes_halts`: the machine takes lexemes until it halts, from
  any state and on any text.
- `read_of_takes_done`: if it takes the whole text and the expression is
  read, that is the value of the text.
- `read_of_halts`: if it halts in any other way, reading fails there and
  nowhere else.

The three leave no case open, so they replace the recursion over streams
for everything that follows; `read_eq_ok_iff_takes` is the first use.
-/
import PocketScheme.Proofs.Token.Munch
import PocketScheme.Reading

namespace PocketScheme

open Text

namespace Reading

-- ========================================================= single steps

/-- A step does not look at the place of its token. -/
theorem step_position (kind : Kind) (text : List Char) (p q : Position) (reading : Reading) :
    reading.step ⟨kind, text, p⟩ = reading.step ⟨kind, text, q⟩ := by
  cases reading <;> rfl

/-- Whether a token can come next is a matter of its kind. -/
theorem step_refuses_kind {token token' : Token} {reading : Reading} {expecting : String}
    (h : reading.step token = .error expecting) (hkind : token'.kind = token.kind) :
    reading.step token' = .error expecting := by
  cases reading <;> simp only [step, start, hkind] at h ⊢ <;> grind

-- ==================================================== stretches of a run

/-- From one state, the machine takes the lexemes of a text, in front of
a rest, and comes to another state. -/
inductive Takes (rest : List Char) : Reading → List Char → Reading → Prop where
  | refl (reading : Reading) : Takes rest reading [] reading
  | step {reading reading' reading'' : Reading} {kind : Kind} {lexeme more : List Char} :
      IsLexeme kind lexeme → Stops kind.goesOn (more ++ rest) →
      reading.step ⟨kind, lexeme, {}⟩ = .ok reading' → Takes rest reading' more reading'' →
      Takes rest reading (lexeme ++ more) reading''

namespace Takes

theorem single (kind : Kind) {reading reading' : Reading} {lexeme rest : List Char}
    (hlexeme : IsLexeme kind lexeme) (hstops : Stops kind.goesOn rest)
    (hstep : reading.step ⟨kind, lexeme, {}⟩ = .ok reading') :
    Takes rest reading lexeme reading' := by
  have h : Takes rest reading (lexeme ++ []) reading' :=
    .step hlexeme hstops hstep (.refl reading')
  rwa [List.append_nil] at h

theorem trans {reading reading' reading'' : Reading} {text more rest : List Char}
    (first : Takes (more ++ rest) reading text reading')
    (second : Takes rest reading' more reading'') :
    Takes rest reading (text ++ more) reading'' := by
  induction first with
  | refl reading => exact second
  | step hlexeme hstops hstep _ ih =>
      rw [List.append_assoc]
      exact .step hlexeme (by rwa [List.append_assoc]) hstep (ih second)

/-- Of the text after a stretch, only the first character matters. -/
theorem rest_congr {reading reading' : Reading} {text rest : List Char} {c : Char}
    (h : Takes (c :: rest) reading text reading') (rest' : List Char) :
    Takes (c :: rest') reading text reading' := by
  induction h with
  | refl reading => exact .refl reading
  | step hlexeme hstops hstep _ ih =>
      exact .step hlexeme (stops_append_cons rest rest' hstops) hstep ih

end Takes

/-- The machine halts on a text: its first lexeme, if there is one,
cannot come next. -/
def Halts (reading : Reading) (rest : List Char) : Prop :=
  ∀ lexeme, Lexeme.first? rest = some lexeme →
    ∃ expecting, reading.step ⟨lexeme.kind, lexeme.text, {}⟩ = .error expecting

/-- The machine takes lexemes until it halts. -/
theorem exists_takes_halts (reading : Reading) (text : List Char) :
    ∃ taken rest reading', text = taken ++ rest ∧ Takes rest reading taken reading'
      ∧ reading'.Halts rest := by
  -- on the length of the text: a lexeme leaves a shorter one
  induction hn : text.length using Nat.strongRecOn generalizing reading text with
  | ind n ih =>
      subst hn
      cases hfirst : Lexeme.first? text with
      | none =>
          refine ⟨[], text, reading, rfl, .refl reading, fun lexeme h => ?_⟩
          rw [hfirst] at h
          cases h
      | some lexeme =>
          cases hstep : reading.step ⟨lexeme.kind, lexeme.text, {}⟩ with
          | error expecting =>
              refine ⟨[], text, reading, rfl, .refl reading, fun lexeme' h => ?_⟩
              rw [hfirst] at h
              cases h
              exact ⟨expecting, hstep⟩
          | ok reading' =>
              obtain ⟨taken, rest, reading'', hrest, htakes, hhalts⟩ :=
                ih _ (Lexeme.length_rest_lt hfirst) reading' lexeme.rest rfl
              obtain ⟨htext, hlexeme, hstops⟩ := Lexeme.first?_eq_some_iff.1 hfirst
              refine ⟨lexeme.text ++ taken, rest, reading'', ?_, ?_, hhalts⟩
              · rw [htext, hrest, List.append_assoc]
              · exact .step hlexeme (hrest ▸ hstops) hstep htakes

-- ======================================================= runs on streams

section Streams

variable {reading reading' : Reading} {stream stream' : TokenStream} {token : Token}

/-- A run ends where the stream has no token to look at. -/
theorem run_of_peek_error {failure : Failure} (hundone : ∀ v, reading ≠ done v)
    (hpeek : stream.peek = (.error failure, stream')) :
    reading.run stream = (.error failure, stream') := by
  rw [run.eq_2 reading stream hundone]
  split <;> simp_all

/-- A run ends at a token that cannot come next. -/
theorem run_of_step_error {expecting : String} (hundone : ∀ v, reading ≠ done v)
    (hpeek : stream.peek = (.ok token, stream'))
    (hstep : reading.step token = .error expecting) :
    reading.run stream = (.error (token.unexpected expecting), stream') := by
  rw [run.eq_2 reading stream hundone]
  split
  · simp_all
  · split <;> simp_all

/-- A run goes on from a token that can come next. -/
theorem run_of_step_ok (hpeek : stream.peek = (.ok token, stream'))
    (hstep : reading.step token = .ok reading') :
    reading.run stream = reading'.run (stream'.take token) := by
  have hundone : ∀ v, reading ≠ done v := by
    rintro v rfl
    cases hstep
  rw [run.eq_2 reading stream hundone]
  split
  · simp_all
  · split <;> simp_all

end Streams

end Reading

namespace TokenStream

-- ======================================================= streams on text

/-- The stream of a text that starts at a place. -/
def startingAt (p : Position) (text : List Char) : TokenStream := ⟨none, ⟨text, p⟩⟩

theorem peek_of_first? {text : List Char} {lexeme : Lexeme}
    (h : Lexeme.first? text = some lexeme) (p : Position) :
    (startingAt p text).peek =
      (.ok ⟨lexeme.kind, lexeme.text, p⟩,
        ⟨some ⟨lexeme.kind, lexeme.text, p⟩, ⟨lexeme.rest, p.after lexeme.text⟩⟩) := by
  simp [startingAt, peek, Cursor.next, h]

theorem peek_nil (p : Position) :
    (startingAt p []).peek =
      (.ok ⟨.endOfInput, [], p⟩, ⟨some ⟨.endOfInput, [], p⟩, ⟨[], p⟩⟩) :=
  rfl

theorem peek_cons_of_first?_none {c : Char} {text : List Char}
    (h : Lexeme.first? (c :: text) = none) (p : Position) :
    (startingAt p (c :: text)).peek =
      (.error (Cursor.noLexeme c p), startingAt p (c :: text)) := by
  simp [startingAt, peek, Cursor.next, h]

end TokenStream

/-- A failure that blames a place. -/
def Failure.isAt (p : Position) (failure : Failure) : Prop :=
  ∃ detail, failure = .unreadable detail p

theorem Cursor.noLexeme_isAt (c : Char) (p : Position) : (Cursor.noLexeme c p).isAt p := by
  unfold noLexeme
  split
  · exact ⟨_, rfl⟩
  · exact ⟨_, rfl⟩

theorem Token.unexpected_isAt (token : Token) (expecting : String) :
    (token.unexpected expecting).isAt token.position :=
  ⟨_, rfl⟩

namespace Reading

open TokenStream

-- ========================================================== runs on text

/-- A stretch of a run is passed over, and moves the place along. -/
theorem run_of_takes {reading reading' : Reading} {text rest : List Char}
    (h : Takes rest reading text reading') (p : Position) :
    reading.run (startingAt p (text ++ rest)) =
      reading'.run (startingAt (p.after text) rest) := by
  induction h generalizing p with
  | refl reading => rfl
  | @step reading reading' reading'' kind lexeme more hlexeme hstops hstep _ ih =>
      have hfirst : Lexeme.first? (lexeme ++ more ++ rest) = some ⟨kind, lexeme, more ++ rest⟩ :=
        Lexeme.first?_eq_some_iff.2 ⟨List.append_assoc .., hlexeme, hstops⟩
      rw [run_of_step_ok (peek_of_first? hfirst p) (step_position kind lexeme {} p reading ▸ hstep),
        Position.after_append, ← ih (p.after lexeme)]
      have hkind : kind ≠ .endOfInput := Lexeme.kind_ne_endOfInput hfirst
      rw [take, if_neg hkind]
      rfl

/-- A run that halts before the expression is read fails where it
halts. -/
theorem run_of_halts {reading : Reading} {rest : List Char} (h : reading.Halts rest)
    (hundone : ∀ v, reading ≠ done v) (p : Position) :
    ∃ failure stream, reading.run (startingAt p rest) = (.error failure, stream)
      ∧ failure.isAt p := by
  cases hfirst : Lexeme.first? rest with
  | some lexeme =>
      obtain ⟨expecting, hstep⟩ := h lexeme hfirst
      rw [step_position _ _ _ p] at hstep
      exact ⟨_, _, run_of_step_error hundone (peek_of_first? hfirst p) hstep,
        Token.unexpected_isAt _ expecting⟩
  | none =>
      cases rest with
      | nil =>
          have hend : (⟨.endOfInput, [], p⟩ : Token).kind = .endOfInput := rfl
          obtain ⟨expecting, hstep⟩ := step_endOfInput hend reading
          exact ⟨_, _, run_of_step_error hundone (peek_nil p) hstep,
            Token.unexpected_isAt _ expecting⟩
      | cons c rest =>
          exact ⟨_, _, run_of_peek_error hundone (peek_cons_of_first?_none hfirst p),
            Cursor.noLexeme_isAt c p⟩

end Reading

namespace TokenStream

/-- The end of the input is found nowhere else. -/
theorem expect_endOfInput_cons (expecting : String) (p : Position) (c : Char)
    (rest : List Char) :
    ∃ failure stream,
      (startingAt p (c :: rest)).expect .endOfInput expecting = (.error failure, stream)
        ∧ failure.isAt p := by
  cases hfirst : Lexeme.first? (c :: rest) with
  | some lexeme =>
      have hkind : lexeme.kind ≠ .endOfInput := Lexeme.kind_ne_endOfInput hfirst
      rw [expect, peek_of_first? hfirst]
      exact ⟨_, _, if_neg hkind, Token.unexpected_isAt _ expecting⟩
  | none =>
      rw [expect, peek_cons_of_first?_none hfirst]
      exact ⟨_, _, rfl, Cursor.noLexeme_isAt c p⟩

end TokenStream

-- ============================================================== reading

open Reading

/-- Of the expression in a text, a stretch that is taken is passed. -/
theorem readExpression_of_takes {reading : Reading} {text rest : List Char}
    (h : Takes rest (form []) text reading) :
    (TokenStream.ofText (text ++ rest)).readExpression =
      reading.run (.startingAt (Position.after {} text) rest) :=
  run_of_takes h {}

/-- A text that the machine takes as a whole has the value it comes
to. -/
theorem read_of_takes_done {text : List Char} {v : Value}
    (h : Takes [] (form []) text (done v)) : read text = .ok v := by
  have hrun := readExpression_of_takes h
  rw [List.append_nil, run] at hrun
  rw [read, hrun]
  rfl

/-- If the machine halts before the end, or at the end with the
expression unread, reading fails where it halts. -/
theorem read_of_halts {reading : Reading} {text rest : List Char}
    (h : Takes rest (form []) text reading) (hhalts : reading.Halts rest)
    (hshort : ¬(rest = [] ∧ ∃ v, reading = done v)) :
    ∃ failure, read (text ++ rest) = .error failure
      ∧ failure.isAt (Position.after {} text) := by
  rw [read, readExpression_of_takes h]
  by_cases hdone : ∃ v, reading = done v
  · obtain ⟨v, rfl⟩ := hdone
    cases rest with
    | nil => exact absurd ⟨rfl, v, rfl⟩ hshort
    | cons c rest =>
        obtain ⟨failure, stream, hexpect, hat⟩ :=
          TokenStream.expect_endOfInput_cons "end of input" (Position.after {} text) c rest
        rw [run]
        simp only [hexpect]
        exact ⟨failure, rfl, hat⟩
  · obtain ⟨failure, stream, hrefused, hat⟩ :=
      run_of_halts hhalts (fun v hv => hdone ⟨v, hv⟩) (Position.after {} text)
    simp only [hrefused]
    exact ⟨failure, rfl, hat⟩

/-- Reading fails only where the machine halts. -/
theorem exists_halts_of_read_error {text : List Char} {failure : Failure}
    (h : read text = .error failure) :
    ∃ taken rest reading, text = taken ++ rest ∧ Takes rest (form []) taken reading
      ∧ reading.Halts rest ∧ ¬(rest = [] ∧ ∃ v, reading = done v)
      ∧ failure.isAt (Position.after {} taken) := by
  obtain ⟨taken, rest, reading, rfl, htakes, hhalts⟩ := exists_takes_halts (form []) text
  have hshort : ¬(rest = [] ∧ ∃ v, reading = done v) := by
    rintro ⟨rfl, v, rfl⟩
    rw [List.append_nil, read_of_takes_done htakes] at h
    cases h
  obtain ⟨failure', hread, hat⟩ := read_of_halts htakes hhalts hshort
  rw [h] at hread
  cases hread
  exact ⟨taken, rest, reading, rfl, htakes, hhalts, hshort, hat⟩

/-- A text has a value exactly if the machine takes it as a whole. -/
theorem read_eq_ok_iff_takes {text : List Char} {v : Value} :
    read text = .ok v ↔ Takes [] (form []) text (done v) := by
  constructor
  · intro h
    obtain ⟨taken, rest, reading, rfl, htakes, hhalts⟩ := exists_takes_halts (form []) text
    by_cases hshort : rest = [] ∧ ∃ v, reading = done v
    · obtain ⟨rfl, w, rfl⟩ := hshort
      rw [List.append_nil] at h ⊢
      rw [read_of_takes_done htakes] at h
      cases h
      exact htakes
    · obtain ⟨failure, hread, -⟩ := read_of_halts htakes hhalts hshort
      rw [h] at hread
      cases hread
  · exact read_of_takes_done

end PocketScheme
