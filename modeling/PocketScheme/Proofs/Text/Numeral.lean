/-
The number at the front of a text, said without the search for it.

A numeral is a run of digits, with or without a minus sign directly
before it. A text leads with a number if it is blanks, a numeral of that
number and a rest that no digit starts; the blanks and the rest may be
empty. A numeral starts with no blank, and what starts with a digit
starts with no minus sign, so a text leads with one number at most, and
the search finds it (`leading?_eq_some_iff`).
-/
import PocketScheme.Proofs.Text.Conversion

namespace PocketScheme.Text.Decimal

/-- The texts of numbers: digits, with an optional minus sign in front. -/
def IsNumeral (text : List Char) : Prop :=
  Run Char.isDigit text ∨ ∃ digits, text = '-' :: digits ∧ Run Char.isDigit digits

/-- The number that a text leads with. -/
def Leads (text : List Char) (n : Int) : Prop :=
  ∃ blanks numeral rest, text = blanks ++ (numeral ++ rest)
    ∧ (∀ c ∈ blanks, isBlank c = true) ∧ IsNumeral numeral ∧ Stops Char.isDigit rest
    ∧ Decimal.read numeral = n

-- ============================================================= numerals

theorem ne_minus_of_isDigit {c : Char} (h : c.isDigit = true) : c ≠ '-' := by
  rintro rfl
  exact absurd h (by decide)

/-- A run of digits is read as its value. -/
theorem read_of_run {digits : List Char} (h : Run Char.isDigit digits) :
    Decimal.read digits = value digits := by
  obtain ⟨c, body, rfl, hc, -⟩ := h.eq_cons
  unfold Decimal.read
  split
  · next heq => exact absurd (List.cons.inj heq).1 (ne_minus_of_isDigit hc)
  · rfl

/-- No numeral starts with a blank. -/
theorem IsNumeral.stops_isBlank {numeral : List Char} (h : IsNumeral numeral)
    (rest : List Char) : Stops isBlank (numeral ++ rest) := by
  rcases h with hrun | ⟨digits, rfl, -⟩
  · obtain ⟨c, body, rfl, hc, -⟩ := hrun.eq_cons
    exact stops_cons.2 (isBlank_of_isDigit hc)
  · exact stops_cons.2 (by decide)

-- =========================================================== the search

/-- The digits at the front of a text are all of them, and at least
one. -/
theorem magnitude?_eq_some_iff {text : List Char} {m : Nat} :
    leading?.magnitude? text = some m ↔
      ∃ digits rest, text = digits ++ rest ∧ Run Char.isDigit digits ∧ Stops Char.isDigit rest
        ∧ value digits = m := by
  constructor
  · intro h
    refine ⟨text.takeWhile Char.isDigit, text.dropWhile Char.isDigit,
      List.takeWhile_append_dropWhile.symm, ⟨?_, ?_⟩, stops_dropWhile _ _, ?_⟩
    · intro hnil
      rw [leading?.magnitude?, hnil] at h
      cases h
    · exact List.all_eq_true.1 List.all_takeWhile
    · unfold leading?.magnitude? at h
      split at h
      · cases h
      · rw [← valueInParts_eq_value]
        exact Option.some.inj h
  · rintro ⟨digits, rest, rfl, hrun, hstops, rfl⟩
    obtain ⟨c, body, rfl, -, -⟩ := hrun.eq_cons
    rw [leading?.magnitude?, takeWhile_of_stops hrun.2 hstops, ← valueInParts_eq_value]

/-- Behind the blanks, a minus sign negates the digits after it. -/
theorem leading?_of_minus {text after : List Char} (h : stripFront text = '-' :: after) :
    leading? text = (leading?.magnitude? after).map (fun m : Nat => -(m : Int)) := by
  unfold leading?
  split
  · next after' hafter =>
      rw [h] at hafter
      obtain ⟨-, rfl⟩ := List.cons.inj hafter
      cases leading?.magnitude? after <;> rfl
  · next hne => exact absurd h (hne after)

theorem leading?_of_ne_minus {text : List Char} (h : ∀ after, stripFront text ≠ '-' :: after) :
    leading? text = (leading?.magnitude? (stripFront text)).map Int.ofNat := by
  unfold leading?
  split
  · next after hafter => exact absurd hafter (h after)
  · cases leading?.magnitude? (stripFront text) <;> rfl

/-- The search finds the number that a text leads with. -/
theorem leading?_eq_some_iff {text : List Char} {n : Int} :
    leading? text = some n ↔ Leads text n := by
  constructor
  · intro h
    have hsplit : text = text.takeWhile isBlank ++ stripFront text :=
      List.takeWhile_append_dropWhile.symm
    have hblanks : ∀ c ∈ text.takeWhile isBlank, isBlank c = true :=
      List.all_eq_true.1 List.all_takeWhile
    by_cases hminus : ∃ after, stripFront text = '-' :: after
    · obtain ⟨after, hafter⟩ := hminus
      rw [leading?_of_minus hafter] at h
      obtain ⟨m, hm, rfl⟩ := Option.map_eq_some_iff.1 h
      obtain ⟨digits, rest, rfl, hrun, hstops, rfl⟩ := magnitude?_eq_some_iff.1 hm
      rw [hafter] at hsplit
      exact ⟨_, '-' :: digits, rest, hsplit, hblanks, .inr ⟨digits, rfl, hrun⟩, hstops, rfl⟩
    · rw [leading?_of_ne_minus fun after hafter => hminus ⟨after, hafter⟩] at h
      obtain ⟨m, hm, rfl⟩ := Option.map_eq_some_iff.1 h
      obtain ⟨digits, rest, hdigits, hrun, hstops, rfl⟩ := magnitude?_eq_some_iff.1 hm
      rw [hdigits] at hsplit
      exact ⟨_, digits, rest, hsplit, hblanks, .inl hrun, hstops, read_of_run hrun⟩
  · rintro ⟨blanks, numeral, rest, rfl, hblanks, hnumeral, hstops, rfl⟩
    have hstrip : stripFront (blanks ++ (numeral ++ rest)) = numeral ++ rest :=
      dropWhile_of_stops hblanks (hnumeral.stops_isBlank rest)
    rcases hnumeral with hrun | ⟨digits, rfl, hrun⟩
    · have hne : ∀ after, stripFront (blanks ++ (numeral ++ rest)) ≠ '-' :: after := by
        intro after hafter
        obtain ⟨c, body, rfl, hc, -⟩ := hrun.eq_cons
        rw [hstrip] at hafter
        exact ne_minus_of_isDigit hc (List.cons.inj hafter).1
      have hm := magnitude?_eq_some_iff.2 ⟨numeral, rest, rfl, hrun, hstops, rfl⟩
      rw [leading?_of_ne_minus hne, hstrip, hm, read_of_run hrun]
      rfl
    · have hm := magnitude?_eq_some_iff.2 ⟨digits, rest, rfl, hrun, hstops, rfl⟩
      have hafter : stripFront (blanks ++ ('-' :: digits ++ rest)) = '-' :: (digits ++ rest) :=
        hstrip
      rw [leading?_of_minus hafter, hm]
      rfl

end PocketScheme.Text.Decimal
