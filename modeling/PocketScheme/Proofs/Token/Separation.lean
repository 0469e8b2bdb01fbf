/-
Which sequences of lexemes a text can fall into: the well-separated ones.

Two lexemes that follow each other are taken for one, or cut at another
place, if the first goes on with what the second starts with. Since the
first character decides the kind, this is a matter of the two kinds
alone (`Kind.goesOn_eq_merges`), and the pairs of kinds that merge are
few: blanks with blanks, digits with digits, and an atom with an atom or
with digits.

So for lexemes one after the other, what matters of the text behind each
is the kind of the next one (`stops_unlex_iff`). The lexer cuts the text
of a sequence back into it exactly if no two neighbours merge, and from
no text does it make another sequence.
-/
import Mathlib.Data.List.Chain
import PocketScheme.Proofs.Token.Lexing

namespace PocketScheme

open Text Position

namespace Kind

-- ======================================================= kinds that merge

/-- The kinds that merge with one that is followed by the other. -/
def merges : Kind → Kind → Bool
  | whitespace, next => next = whitespace
  | number, next => next = number
  | atom, next => next = atom || next = number
  | _, _ => false

/-- The lexemes of no two kinds start with one character. -/
theorem starts_iff_eq {kind next : Kind} {c : Char} (h : next.starts c = true) :
    kind.starts c = true ↔ next = kind := by
  rw [← ofChar?_eq_some_iff, ofChar?_eq_some_iff.2 h, Option.some.injEq]

/-- A lexeme goes on with the start of another if their kinds merge. -/
theorem goesOn_eq_merges (kind : Kind) {next : Kind} {c : Char} (h : next.starts c = true) :
    kind.goesOn c = kind.merges next := by
  have hstarts (other : Kind) : other.starts c = decide (next = other) := by
    rw [Bool.eq_iff_iff, starts_iff_eq h, decide_eq_true_iff]
  cases kind with
  | whitespace => exact hstarts whitespace
  | number => exact hstarts number
  | atom =>
      show (number.starts c || atom.starts c) = _
      rw [hstarts, hstarts, Bool.or_comm]
      rfl
  | _ => rfl

end Kind

-- ====================================================== well-separatedness

/-- A kind and a text of that kind, without a place. -/
abbrev Piece := Kind × List Char

/-- A token without its place. -/
def Token.piece (token : Token) : Piece := (token.kind, token.text)

/-- The text of some pieces, one after the other. -/
def unlex (pieces : List Piece) : List Char := pieces.flatMap Prod.snd

/-- Lexemes of which no two neighbours merge. -/
structure WellSeparated (pieces : List Piece) : Prop where
  lexemes : ∀ piece ∈ pieces, IsLexeme piece.1 piece.2
  apart : pieces.IsChain fun piece next => piece.1.merges next.1 = false

/-- A lexeme stops at a sequence of lexemes if its kind does not merge
with that of the first one. -/
theorem stops_unlex_iff {pieces : List Piece} (h : ∀ piece ∈ pieces, IsLexeme piece.1 piece.2)
    (kind : Kind) :
    Stops kind.goesOn (unlex pieces) ↔ ∀ next ∈ pieces.head?, kind.merges next.1 = false := by
  cases pieces with
  | nil =>
      constructor
      · intro _ next hnext
        cases hnext
      · intro _
        exact stops_nil kind.goesOn
  | cons first more =>
      obtain ⟨next, text⟩ := first
      obtain ⟨c, body, rfl, hc⟩ := (h (next, text) (.head more)).eq_cons
      have hmerges := kind.goesOn_eq_merges (Kind.ofChar?_eq_some_iff.1 hc)
      have htext : unlex ((next, c :: body) :: more) = c :: (body ++ unlex more) := rfl
      rw [htext, stops_cons, hmerges, List.head?_cons]
      simp

theorem wellSeparated_nil : WellSeparated [] := ⟨by simp, .nil⟩

/-- A lexeme in front keeps lexemes well separated if it stops at their
text. -/
theorem wellSeparated_cons_iff {kind : Kind} {lexeme : List Char} {pieces : List Piece} :
    WellSeparated ((kind, lexeme) :: pieces) ↔
      IsLexeme kind lexeme ∧ Stops kind.goesOn (unlex pieces) ∧ WellSeparated pieces := by
  constructor
  · rintro ⟨hlexemes, hapart⟩
    obtain ⟨hlexeme, hmore⟩ := List.forall_mem_cons.1 hlexemes
    obtain ⟨hhead, htail⟩ := List.isChain_cons.1 hapart
    exact ⟨hlexeme, (stops_unlex_iff hmore kind).2 hhead, hmore, htail⟩
  · rintro ⟨hlexeme, hstops, hmore, htail⟩
    have hhead := (stops_unlex_iff hmore kind).1 hstops
    exact ⟨List.forall_mem_cons.2 ⟨hlexeme, hmore⟩, List.isChain_cons.2 ⟨hhead, htail⟩⟩

-- ================================================================ lexing

/-- Well-separated lexemes are what their text falls into. -/
theorem WellSeparated.lexed {pieces : List Piece} (h : WellSeparated pieces)
    (passed : List Char) :
    ∃ lexing, Lexed passed (unlex pieces) lexing ∧ lexing.failure = none
      ∧ lexing.tokens.map Token.piece = pieces ++ [(.endOfInput, [])] := by
  induction pieces generalizing passed with
  | nil => exact ⟨_, .finished passed, rfl, rfl⟩
  | cons first more ih =>
      obtain ⟨kind, lexeme⟩ := first
      obtain ⟨hlexeme, hstops, hmore⟩ := wellSeparated_cons_iff.1 h
      obtain ⟨lexing, hlexed, hnone, htokens⟩ := ih hmore (passed ++ lexeme)
      refine ⟨_, .token hlexeme hstops hlexed, hnone, ?_⟩
      rw [List.map_cons, htokens, List.cons_append]
      rfl

/-- A text that is lexed to its end falls into well-separated lexemes. -/
theorem Lexed.wellSeparated {passed rest : List Char} {lexing : Lexing}
    (h : Lexed passed rest lexing) (hnone : lexing.failure = none) :
    ∃ pieces, lexing.tokens.map Token.piece = pieces ++ [(.endOfInput, [])]
      ∧ WellSeparated pieces ∧ unlex pieces = rest := by
  induction h with
  | finished passed => exact ⟨[], rfl, wellSeparated_nil, rfl⟩
  | stuck passed _ => cases hnone
  | @token passed lexeme rest kind lexing hlexeme hstops _ ih =>
      obtain ⟨pieces, htokens, hpieces, rfl⟩ := ih hnone
      refine ⟨(kind, lexeme) :: pieces, ?_, wellSeparated_cons_iff.2 ⟨hlexeme, hstops, hpieces⟩, rfl⟩
      rw [List.map_cons, htokens, List.cons_append]
      rfl

/-- Putting lexemes together and lexing undo each other on the
well-separated sequences: of these every one comes back, with the end of
the input after it, and what comes from any text is one of these and
makes up the text. -/
theorem lex_unlex_wellSeparated :
    (∀ pieces, WellSeparated pieces →
        (lex (unlex pieces)).failure = none
          ∧ (lex (unlex pieces)).tokens.map Token.piece = pieces ++ [(.endOfInput, [])])
      ∧ ∀ text, (lex text).failure = none →
          ∃ pieces, (lex text).tokens.map Token.piece = pieces ++ [(.endOfInput, [])]
            ∧ WellSeparated pieces ∧ unlex pieces = text := by
  constructor
  · intro pieces h
    obtain ⟨lexing, hlexed, hnone, htokens⟩ := h.lexed []
    have heq : lex (unlex pieces) = lexing := lexed_iff.1 hlexed
    rw [heq]
    exact ⟨hnone, htokens⟩
  · intro text hnone
    exact (lexed_start text).wellSeparated hnone

/-- Digits do not go on with a letter, so that a number and an atom need
nothing between them. -/
theorem lex_unlex_wellSeparated_number :
    WellSeparated [(.number, ['1', '2']), (.atom, ['b', '3'])]
      ∧ (lex "12b3".toList).failure = none
      ∧ (lex "12b3".toList).tokens.map Token.piece =
          [(.number, ['1', '2']), (.atom, ['b', '3']), (.endOfInput, [])]
      ∧ ∃ pieces, WellSeparated pieces ∧ unlex pieces = "12b3".toList := by
  have hpieces : WellSeparated [(.number, ['1', '2']), (.atom, ['b', '3'])] := by
    have hnumber : IsLexeme .number ['1', '2'] :=
      ⟨List.cons_ne_nil _ _, List.all_eq_true.1 (by decide)⟩
    have hatom : IsLexeme .atom ['b', '3'] := ⟨by decide, List.all_eq_true.1 (by decide)⟩
    exact ⟨by simp [hnumber, hatom], by decide⟩
  obtain ⟨hnone, htokens⟩ := lex_unlex_wellSeparated.1 _ hpieces
  obtain ⟨pieces, -, hseparated, htext⟩ := lex_unlex_wellSeparated.2 "12b3".toList hnone
  exact ⟨hpieces, hnone, htokens, pieces, hseparated, htext⟩

end PocketScheme
