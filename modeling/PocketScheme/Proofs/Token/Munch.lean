/-
What the first lexeme of a text is, in two parts that no longer speak of
how it is found: what the lexemes of each kind are (`IsLexeme`), and
where one ends (`Kind.goesOn`, the characters that would have made it
longer).

`first?_eq_some_iff` is the whole of it: the first lexeme of a text is a
lexeme at its front that the text after it does not go on. All that is
said about reading is said in these terms, and none of it looks into the
search again.

The first character alone decides the kind (`Kind.ofChar?`): the classes
of first characters are disjoint, whatever the order in which the search
tries them (`ofChar?_eq_some_iff`). Only whether a string ends takes
more than one character to know (`first?_cons_eq_none_iff`).
-/
import PocketScheme.Proofs.Text.Classes

namespace PocketScheme

open Text

-- ====================================================== lexemes by kind

/-- The texts of atoms. -/
def IsAtom : List Char → Prop
  | [] => False
  | c :: rest => startsAtom c = true ∧ ∀ d ∈ rest, continuesAtom d = true

/-- Whether a text is an atom's can be computed. -/
instance decIsAtom : DecidablePred IsAtom
  | [] => isFalse id
  | c :: rest =>
    decidable_of_iff ((startsAtom c && rest.all continuesAtom) = true) (by simp [IsAtom])

theorem continuesAtom_of_isAtom {text : List Char} (h : IsAtom text) :
    ∀ c ∈ text, continuesAtom c = true := by
  cases text with
  | nil => cases h
  | cons c text => exact List.forall_mem_cons.2 ⟨continuesAtom_of_startsAtom h.1, h.2⟩

/-- The texts of the lexemes of a kind. -/
def IsLexeme : Kind → List Char → Prop
  | .whitespace, text => Run isBlank text
  | .quote, text => text = ['\'']
  | .leftParen, text => text = ['(']
  | .rightParen, text => text = [')']
  | .point, text => text = ['.']
  | .string, text => ∃ body, '"' ∉ body ∧ text = '"' :: (body ++ ['"'])
  | .number, text => Run Char.isDigit text
  | .atom, text => IsAtom text
  | .endOfInput, _ => False

namespace Kind

/-- The characters that the lexemes of a kind start with. -/
def starts : Kind → Char → Bool
  | whitespace => isBlank
  | quote => (· == '\'')
  | leftParen => (· == '(')
  | rightParen => (· == ')')
  | point => (· == '.')
  | string => (· == '"')
  | number => Char.isDigit
  | atom => startsAtom
  | endOfInput => fun _ => false

/-- The characters that go on a lexeme of a kind. -/
def goesOn : Kind → Char → Bool
  | whitespace => isBlank
  | number => Char.isDigit
  | atom => continuesAtom
  | _ => fun _ => false

/-- The kind of the lexemes that start with a character. -/
def ofChar? (c : Char) : Option Kind :=
  if isBlank c then some whitespace
  else if c = '\'' then some quote
  else if c = '(' then some leftParen
  else if c = ')' then some rightParen
  else if c = '.' then some point
  else if c = '"' then some string
  else if c.isDigit then some number
  else if startsAtom c then some atom
  else none

/-- The first character decides the kind: the kinds start differently. -/
theorem ofChar?_eq_some_iff {c : Char} {kind : Kind} :
    ofChar? c = some kind ↔ kind.starts c = true := by
  constructor
  · intro h
    unfold ofChar? at h
    repeat' split at h
    all_goals cases h
    all_goals simp_all [starts]
  · intro h
    have hmark (hcontinues : continuesAtom c = true) := not_mem_marks_of_continuesAtom hcontinues
    simp only [marks, List.mem_cons, List.not_mem_nil, or_false, not_or] at hmark
    cases kind with
    | whitespace => simp [ofChar?, show isBlank c = true from h]
    | number =>
        simp [ofChar?, isBlank_of_isDigit h, hmark (continuesAtom_of_isDigit h),
          show c.isDigit = true from h]
    | atom =>
        simp [ofChar?, isBlank_of_startsAtom h, hmark (continuesAtom_of_startsAtom h),
          isDigit_of_startsAtom h, show startsAtom c = true from h]
    | endOfInput => cases h
    | _ =>
        obtain rfl := eq_of_beq h
        decide

end Kind

/-- Lexemes of a kind other than strings are a first character and any
number of others. -/
theorem isLexeme_cons_iff {kind : Kind} (hkind : kind ≠ .string) {c : Char}
    {body : List Char} :
    IsLexeme kind (c :: body) ↔
      kind.starts c = true ∧ ∀ d ∈ body, kind.goesOn d = true := by
  cases kind with
  | whitespace | number =>
      constructor
      · intro h
        exact ⟨h.2 c (.head _), fun d hd => h.2 d (.tail _ hd)⟩
      · intro h
        exact Run.cons h.1 h.2
  | atom => exact Iff.rfl
  | string => exact absurd rfl hkind
  | _ => simp [IsLexeme, Kind.starts, Kind.goesOn, List.eq_nil_iff_forall_not_mem]

/-- A lexeme starts with a character of its kind. -/
theorem IsLexeme.eq_cons {kind : Kind} {text : List Char} (h : IsLexeme kind text) :
    ∃ c body, text = c :: body ∧ Kind.ofChar? c = some kind := by
  simp only [Kind.ofChar?_eq_some_iff]
  by_cases hkind : kind = .string
  · subst hkind
    obtain ⟨body, -, rfl⟩ := h
    exact ⟨'"', body ++ ['"'], rfl, rfl⟩
  · cases text with
    | nil => cases kind <;> simp_all [IsLexeme, IsAtom, Run]
    | cons c body => exact ⟨c, body, rfl, ((isLexeme_cons_iff hkind).1 h).1⟩

namespace Lexeme

-- ==================================================== the first lexeme

/-- A lexeme other than a string is the longest run of what goes on its
kind. -/
theorem first?_of_ofChar? {c : Char} {kind : Kind} (h : Kind.ofChar? c = some kind)
    (hkind : kind ≠ .string) (rest : List Char) :
    first? (c :: rest) = some (span kind c kind.goesOn rest) := by
  have hsingle (kind : Kind) : span kind c (fun _ => false) rest = ⟨kind, [c], rest⟩ := by
    cases rest <;> rfl
  simp only [first?]
  unfold Kind.ofChar? at h
  repeat' split at h
  all_goals cases h
  all_goals simp_all [Kind.goesOn]

theorem first?_of_ofChar?_none {c : Char} (h : Kind.ofChar? c = none) (rest : List Char) :
    first? (c :: rest) = none := by
  simp only [first?]
  unfold Kind.ofChar? at h
  repeat' split at h
  all_goals simp_all

theorem bne_quote_of_not_mem {body : List Char} (h : '"' ∉ body) :
    ∀ d ∈ body, (d != '"') = true := by
  intro d hd
  simpa using ne_of_mem_of_not_mem hd h

/-- A string runs to the next double quote. -/
theorem first?_string {body : List Char} (h : '"' ∉ body) (rest : List Char) :
    first? ('"' :: (body ++ '"' :: rest)) = some ⟨.string, '"' :: (body ++ ['"']), rest⟩ := by
  have hbody := bne_quote_of_not_mem h
  have hstops : Stops (· != '"') ('"' :: rest) := by simp
  simp [first?, show isBlank '"' = false by decide, dropWhile_of_stops hbody hstops,
    takeWhile_of_stops hbody hstops]

/-- A string that never ends is no lexeme. -/
theorem first?_unclosed {body : List Char} (h : '"' ∉ body) : first? ('"' :: body) = none := by
  have hdrop := dropWhile_of_stops (bne_quote_of_not_mem h) (stops_nil _)
  rw [List.append_nil] at hdrop
  simp [first?, show isBlank '"' = false by decide, hdrop]

/-- A text has no first lexeme if its first character starts none, or is
the double quote of a string that never ends. -/
theorem first?_cons_eq_none_iff {c : Char} {rest : List Char} :
    first? (c :: rest) = none ↔ Kind.ofChar? c = none ∨ c = '"' ∧ '"' ∉ rest := by
  constructor
  · intro h
    cases hc : Kind.ofChar? c with
    | none => exact .inl rfl
    | some kind =>
        by_cases hkind : kind = .string
        · subst hkind
          obtain rfl : c = '"' := eq_of_beq (Kind.ofChar?_eq_some_iff.1 hc)
          refine .inr ⟨rfl, fun hmem => ?_⟩
          obtain ⟨body, after, rfl, hbody⟩ := List.eq_append_cons_of_mem hmem
          rw [first?_string hbody] at h
          cases h
        · rw [first?_of_ofChar? hc hkind] at h
          cases h
  · rintro (hc | ⟨rfl, hbody⟩)
    · exact first?_of_ofChar?_none hc rest
    · exact first?_unclosed hbody

/-- The first lexeme of a text is a lexeme at its front that the text
after it does not go on. -/
theorem first?_eq_some_iff {text lexeme rest : List Char} {kind : Kind} :
    first? text = some ⟨kind, lexeme, rest⟩ ↔
      text = lexeme ++ rest ∧ IsLexeme kind lexeme ∧ Stops kind.goesOn rest := by
  constructor
  · intro h
    refine ⟨(text_append_rest h).symm, ?_⟩
    cases text with
    | nil => cases h
    | cons c tail =>
        cases hc : Kind.ofChar? c with
        | none =>
            rw [first?_of_ofChar?_none hc] at h
            cases h
        | some kind' =>
            by_cases hkind : kind' = .string
            · subst hkind
              obtain rfl : c = '"' := eq_of_beq (Kind.ofChar?_eq_some_iff.1 hc)
              by_cases hmem : '"' ∈ tail
              · obtain ⟨body, after, rfl, hbody⟩ := List.eq_append_cons_of_mem hmem
                rw [first?_string hbody] at h
                cases h
                exact ⟨⟨body, hbody, rfl⟩, fun _ _ => rfl⟩
              · rw [first?_unclosed hmem] at h
                cases h
            · rw [first?_of_ofChar? hc hkind] at h
              cases h
              refine ⟨(isLexeme_cons_iff hkind).2 ⟨Kind.ofChar?_eq_some_iff.1 hc, ?_⟩, ?_⟩
              · exact List.all_eq_true.1 List.all_takeWhile
              · exact stops_dropWhile _ _
  · rintro ⟨rfl, hlexeme, hstops⟩
    obtain ⟨c, body, rfl, hc⟩ := hlexeme.eq_cons
    by_cases hkind : kind = .string
    · subst hkind
      obtain ⟨body', hbody', heq⟩ := hlexeme
      rw [heq]
      simpa using first?_string hbody' rest
    · have hbody := ((isLexeme_cons_iff hkind).1 hlexeme).2
      rw [List.cons_append, first?_of_ofChar? hc hkind, span, takeWhile_of_stops hbody hstops,
        dropWhile_of_stops hbody hstops]

/-- The first character of a text decides the kind of its first lexeme. -/
theorem ofChar?_of_first? {c : Char} {rest : List Char} {lexeme : Lexeme}
    (h : first? (c :: rest) = some lexeme) : Kind.ofChar? c = some lexeme.kind := by
  obtain ⟨htext, hlexeme, -⟩ := first?_eq_some_iff.1 h
  obtain ⟨d, body, hbody, hd⟩ := hlexeme.eq_cons
  rw [hbody] at htext
  cases htext
  exact hd

end Lexeme

end PocketScheme
