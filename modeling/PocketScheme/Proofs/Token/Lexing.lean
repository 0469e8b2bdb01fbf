/-
The tokens of a whole text.

`Lexed` says how a text that comes after another one falls into tokens:
each is a lexeme that the text after it does not go on, and it has the
place where the text passed so far ends. The text passed is an index of
the relation, so the place is never counted along: it is read off what
is passed, whatever lines the lexemes before it held. Lexing a text
gives the one result that the relation allows (`lexed_iff`).

From there it is one induction for each thing to be said of the tokens:
where they are (`Lexed.position_eq`), what is there at the end of a text
(`Lexed.of_finished`), and what is there at a character that no token
starts at (`Lexed.of_stuck`). In both cases no character is lost.
-/
import PocketScheme.Proofs.Position
import PocketScheme.Proofs.Token.Munch
import PocketScheme.Token.Cursor

namespace PocketScheme

open Text Position

-- ============================================================== lexing

/-- The text that tokens were made from. -/
def textOf (tokens : List Token) : List Char := tokens.flatMap Token.text

@[simp] theorem textOf_nil : textOf [] = [] := rfl

@[simp] theorem textOf_cons (token : Token) (tokens : List Token) :
    textOf (token :: tokens) = token.text ++ textOf tokens := rfl

@[simp] theorem textOf_append (tokens more : List Token) :
    textOf (tokens ++ more) = textOf tokens ++ textOf more :=
  List.flatMap_append

/-- How a text falls into tokens after a text that was passed. -/
inductive Lexed : List Char → List Char → Lexing → Prop where
  /-- At the end there is one more token, without a text. -/
  | finished (passed : List Char) :
      Lexed passed [] ⟨[⟨.endOfInput, [], endOf passed⟩], none⟩
  /-- Where no lexeme starts there is no token. -/
  | stuck (passed : List Char) {c : Char} {rest : List Char} :
      Lexeme.first? (c :: rest) = none →
      Lexed passed (c :: rest) ⟨[], some (Cursor.noLexeme c (endOf passed))⟩
  /-- A lexeme is a token, and the text goes on after it. -/
  | token {passed lexeme rest : List Char} {kind : Kind} {lexing : Lexing} :
      IsLexeme kind lexeme → Stops kind.goesOn rest → Lexed (passed ++ lexeme) rest lexing →
      Lexed passed (lexeme ++ rest)
        ⟨⟨kind, lexeme, endOf passed⟩ :: lexing.tokens, lexing.failure⟩

namespace Cursor

theorem lex_nil (p : Position) : lex ⟨[], p⟩ = ⟨[⟨.endOfInput, [], p⟩], none⟩ := by
  rw [lex]
  rfl

theorem lex_of_first?_none {c : Char} {rest : List Char} (h : Lexeme.first? (c :: rest) = none)
    (p : Position) : lex ⟨c :: rest, p⟩ = ⟨[], some (noLexeme c p)⟩ := by
  have hnext : next ⟨c :: rest, p⟩ = .error (noLexeme c p) := by
    simp [next, h]
  rw [lex]
  split <;> simp_all

/-- A lexeme in front of a text that does not go on it is the first
token, and the others are those of the text. -/
theorem lex_append {kind : Kind} {lexeme rest : List Char} (hlexeme : IsLexeme kind lexeme)
    (hstops : Stops kind.goesOn rest) (p : Position) :
    lex ⟨lexeme ++ rest, p⟩ =
      ⟨⟨kind, lexeme, p⟩ :: (lex ⟨rest, p.after lexeme⟩).tokens,
        (lex ⟨rest, p.after lexeme⟩).failure⟩ := by
  have hfirst : Lexeme.first? (lexeme ++ rest) = some ⟨kind, lexeme, rest⟩ :=
    Lexeme.first?_eq_some_iff.2 ⟨rfl, hlexeme, hstops⟩
  have hkind : kind ≠ .endOfInput := Lexeme.kind_ne_endOfInput hfirst
  have hnext : next ⟨lexeme ++ rest, p⟩ = .ok (⟨kind, lexeme, p⟩, ⟨rest, p.after lexeme⟩) := by
    simp [next, hfirst]
  rw [lex]
  split <;> simp_all

end Cursor

/-- Lexing from a place on gives what the relation allows. -/
theorem lexed_lex (passed rest : List Char) :
    Lexed passed rest (Cursor.lex ⟨rest, endOf passed⟩) := by
  -- on the length of the text: a lexeme leaves a shorter one
  induction hn : rest.length using Nat.strongRecOn generalizing passed rest with
  | ind n ih =>
      subst hn
      cases hfirst : Lexeme.first? rest with
      | some lexeme =>
          obtain ⟨htext, hlexeme, hstops⟩ := Lexeme.first?_eq_some_iff.1 hfirst
          have hmore := ih _ (Lexeme.length_rest_lt hfirst) (passed ++ lexeme.text) lexeme.rest rfl
          rw [htext, Cursor.lex_append hlexeme hstops, after_endOf]
          exact .token hlexeme hstops hmore
      | none =>
          cases rest with
          | nil =>
              rw [Cursor.lex_nil]
              exact .finished passed
          | cons c rest =>
              rw [Cursor.lex_of_first?_none hfirst]
              exact .stuck passed hfirst

/-- The relation allows one result, which is that of lexing. -/
theorem lexed_iff {passed rest : List Char} {lexing : Lexing} :
    Lexed passed rest lexing ↔ Cursor.lex ⟨rest, endOf passed⟩ = lexing := by
  constructor
  · intro h
    induction h with
    | finished passed => exact Cursor.lex_nil _
    | stuck passed hfirst => exact Cursor.lex_of_first?_none hfirst _
    | token hlexeme hstops _ ih => rw [Cursor.lex_append hlexeme hstops, after_endOf, ih]
  · rintro rfl
    exact lexed_lex passed rest

/-- The tokens of a text are what the relation allows from the start. -/
theorem lexed_start (text : List Char) : Lexed [] text (lex text) := lexed_lex [] text

-- ========================================================= single tokens

theorem IsLexeme.ne_nil {kind : Kind} {text : List Char} (h : IsLexeme kind text) : text ≠ [] := by
  obtain ⟨c, body, rfl, -⟩ := h.eq_cons
  exact List.cons_ne_nil c body

theorem IsLexeme.ne_endOfInput {kind : Kind} {text : List Char} (h : IsLexeme kind text) :
    kind ≠ .endOfInput := by
  rintro rfl
  exact h

/-- A character that starts a lexeme decides its kind, and one that
decides none starts none. -/
theorem not_isLexeme_of_ofChar?_none {c : Char} (h : Kind.ofChar? c = none) (kind : Kind)
    (body : List Char) : ¬IsLexeme kind (c :: body) := by
  intro hlexeme
  obtain ⟨d, body', heq, hd⟩ := hlexeme.eq_cons
  cases heq
  rw [h] at hd
  cases hd

namespace Lexed

variable {passed rest : List Char} {lexing : Lexing}

-- ================================================= what is there to say

/-- Every token has the place where what is in front of it ends. -/
theorem position_eq (h : Lexed passed rest lexing) {before after : List Token} {token : Token}
    (hsplit : lexing.tokens = before ++ token :: after) :
    token.position = endOf (passed ++ textOf before) := by
  induction h generalizing before with
  | finished passed =>
      rcases List.append_eq_singleton_iff.1 hsplit.symm with ⟨rfl, heq⟩ | ⟨-, heq⟩
      · obtain ⟨rfl, -⟩ := List.cons.inj heq
        rw [textOf_nil, List.append_nil]
      · cases heq
  | stuck passed hfirst => simp at hsplit
  | token hlexeme hstops hmore ih =>
      cases before with
      | nil =>
          obtain ⟨rfl, -⟩ := List.cons.inj hsplit
          rw [textOf_nil, List.append_nil]
      | cons first before =>
          obtain ⟨rfl, hmore⟩ := List.cons.inj hsplit
          rw [ih hmore, textOf_cons, List.append_assoc]

/-- A text without a place to stick at is lexed to its end: lexemes that
make up the text, and the token for the end where it ends. -/
theorem of_finished (h : Lexed passed rest lexing) (hnone : lexing.failure = none) :
    textOf lexing.tokens = rest
      ∧ ∃ lexemes, lexing.tokens = lexemes ++ [⟨.endOfInput, [], endOf (passed ++ rest)⟩]
        ∧ ∀ token ∈ lexemes, IsLexeme token.kind token.text := by
  induction h with
  | finished passed => exact ⟨rfl, [], by simp, by simp⟩
  | stuck passed hfirst => cases hnone
  | @token passed lexeme rest kind lexing hlexeme hstops hmore ih =>
      obtain ⟨htext, lexemes, htokens, hall⟩ := ih hnone
      refine ⟨?_, ⟨kind, lexeme, endOf passed⟩ :: lexemes, ?_, ?_⟩
      · rw [textOf_cons, htext]
      · rw [htokens, List.append_assoc]
        rfl
      · exact List.forall_mem_cons.2 ⟨hlexeme, hall⟩

/-- A text that cannot be lexed is lexed up to a character that starts no
lexeme, and that is where it fails. -/
theorem of_stuck (h : Lexed passed rest lexing) {failure : Failure}
    (hsome : lexing.failure = some failure) :
    ∃ c more, rest = textOf lexing.tokens ++ c :: more
      ∧ failure = Cursor.noLexeme c (endOf (passed ++ textOf lexing.tokens))
      ∧ Lexeme.first? (c :: more) = none
      ∧ ∀ token ∈ lexing.tokens, IsLexeme token.kind token.text := by
  induction h with
  | finished passed => cases hsome
  | @stuck passed c more hfirst =>
      cases hsome
      exact ⟨c, more, rfl, by simp, hfirst, by simp⟩
  | @token passed lexeme rest kind lexing hlexeme hstops hmore ih =>
      obtain ⟨c, more, htext, hfailure, hfirst, hall⟩ := ih hsome
      refine ⟨c, more, ?_, ?_, hfirst, ?_⟩
      · rw [textOf_cons, List.append_assoc, ← htext]
      · rw [hfailure, textOf_cons, List.append_assoc]
      · exact List.forall_mem_cons.2 ⟨hlexeme, hall⟩

end Lexed

-- ============================================================ whole texts

/-- Lexing loses nothing and places everything. The texts of the tokens
are the front of the text, and every token has the place where what is
in front of it ends. Lexing succeeds exactly if they are all of it; then
the last token, and no other, is the one for the end, and no other has
an empty text. If it fails, it does so at the place where the tokens
end, for a character that starts no lexeme or for the double quote of a
string that never ends. -/
theorem lex_lossless_and_placed (text : List Char) :
    textOf (lex text).tokens <+: text
      ∧ (∀ before token after, (lex text).tokens = before ++ token :: after →
          token.position = endOf (textOf before))
      ∧ ((lex text).failure = none ↔ textOf (lex text).tokens = text)
      ∧ ((lex text).failure = none →
          ∃ lexemes, (lex text).tokens = lexemes ++ [⟨.endOfInput, [], endOf text⟩]
            ∧ ∀ token ∈ lexemes, token.kind ≠ .endOfInput ∧ token.text ≠ [])
      ∧ (∀ failure, (lex text).failure = some failure →
          ∃ c more, text = textOf (lex text).tokens ++ c :: more
            ∧ failure = Cursor.noLexeme c (endOf (textOf (lex text).tokens))
            ∧ (∀ token ∈ (lex text).tokens, token.kind ≠ .endOfInput ∧ token.text ≠ [])
            ∧ (c = '"' ∧ '"' ∉ more ∨ ∀ kind body, ¬IsLexeme kind (c :: body))) := by
  have hlexed := lexed_start text
  have hreal (tokens : List Token) (h : ∀ token ∈ tokens, IsLexeme token.kind token.text) :
      ∀ token ∈ tokens, token.kind ≠ .endOfInput ∧ token.text ≠ [] :=
    fun token hmem => ⟨(h token hmem).ne_endOfInput, (h token hmem).ne_nil⟩
  have hstuck {failure : Failure} (hsome : (lex text).failure = some failure) :
      ∃ c more, text = textOf (lex text).tokens ++ c :: more := by
    obtain ⟨c, more, htext, -⟩ := hlexed.of_stuck hsome
    exact ⟨c, more, htext⟩
  refine ⟨?_, fun before token after hsplit => ?_, ?_, fun hnone => ?_, fun failure hsome => ?_⟩
  · cases hfailure : (lex text).failure with
    | none => exact ⟨[], by rw [(hlexed.of_finished hfailure).1, List.append_nil]⟩
    | some failure =>
        obtain ⟨c, more, htext⟩ := hstuck hfailure
        exact ⟨c :: more, htext.symm⟩
  · simpa using hlexed.position_eq hsplit
  · constructor
    · intro hnone
      exact (hlexed.of_finished hnone).1
    · intro htext
      cases hfailure : (lex text).failure with
      | none => rfl
      | some failure =>
          obtain ⟨c, more, hlonger⟩ := hstuck hfailure
          rw [htext] at hlonger
          simp at hlonger
  · obtain ⟨-, lexemes, htokens, hall⟩ := hlexed.of_finished hnone
    exact ⟨lexemes, htokens, hreal lexemes hall⟩
  · obtain ⟨c, more, htext, hfailure, hfirst, hall⟩ := hlexed.of_stuck hsome
    refine ⟨c, more, htext, hfailure, hreal _ hall, ?_⟩
    rcases Lexeme.first?_cons_eq_none_iff.1 hfirst with hnone | hunclosed
    · exact .inr (not_isLexeme_of_ofChar?_none hnone)
    · exact .inl hunclosed

/-- Behind a string that ends on the second line, a bracket that starts no
token: the tokens end right before it, and its place is blamed. -/
theorem lex_lossless_and_placed_bracket :
    (lex "\"b\nc\"]".toList).failure =
        some (.unreadable "unexpected character \"]\"" ⟨2, 3⟩)
      ∧ (∃ more, "\"b\nc\"]".toList = textOf (lex "\"b\nc\"]".toList).tokens ++ ']' :: more)
      ∧ ∀ kind body, ¬IsLexeme kind (']' :: body) := by
  have hsome : (lex "\"b\nc\"]".toList).failure =
      some (.unreadable "unexpected character \"]\"" ⟨2, 3⟩) := by cbv
  have htokens : textOf (lex "\"b\nc\"]".toList).tokens = "\"b\nc\"".toList := by cbv
  obtain ⟨-, -, -, -, hstuck⟩ := lex_lossless_and_placed "\"b\nc\"]".toList
  obtain ⟨c, more, htext, -, -, hc⟩ := hstuck _ hsome
  have hlast : [']'] = c :: more := by
    have hsplit : "\"b\nc\"]".toList = "\"b\nc\"".toList ++ [']'] := by decide
    rw [htokens, hsplit] at htext
    exact List.append_cancel_left htext
  obtain ⟨rfl, -⟩ := List.cons.inj hlast
  refine ⟨hsome, ⟨more, htext⟩, ?_⟩
  rcases hc with ⟨hquote, -⟩ | hnone
  · exact absurd hquote (by decide)
  · exact hnone

end PocketScheme
