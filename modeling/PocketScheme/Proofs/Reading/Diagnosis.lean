/-
Where reading fails: at the first character that cannot be put right.

The machine fails where it halts, and it halts for a reason that lies in
one character: the lexeme that cannot come next is of a kind, and the
first character decides the kind. Two facts follow.

- What was taken up to there is still good. The state it led to is
  reached by it, so it can be completed (`Reached.complete`).
- What was taken together with the character at fault is good for
  nothing. The lexemes before it end where they did whatever comes after
  it, since a lexeme looks one character ahead and that character is the
  same, and then the machine halts again (`Halts.rest_congr`).

The one exception is a string that never ends. Its double quote is where
reading fails, but another text may go on with the string and end it.
-/
import PocketScheme.Proofs.Position
import PocketScheme.Proofs.Reading.Acceptance

namespace PocketScheme

open Text

namespace Reading

/-- Whether the machine halts is decided by the next character, unless
that starts a string that never ends. -/
theorem Halts.rest_congr {reading : Reading} {c : Char} {rest : List Char}
    (h : reading.Halts (c :: rest)) (hclosed : ¬(c = '"' ∧ '"' ∉ rest)) (rest' : List Char) :
    reading.Halts (c :: rest') := by
  intro lexeme' hfirst'
  have hkind' := Lexeme.ofChar?_of_first? hfirst'
  cases hfirst : Lexeme.first? (c :: rest) with
  | none =>
      rcases Lexeme.first?_cons_eq_none_iff.1 hfirst with hnone | hunclosed
      · rw [hnone] at hkind'
        cases hkind'
      · exact absurd hunclosed hclosed
  | some lexeme =>
      obtain ⟨expecting, hstep⟩ := h lexeme hfirst
      have hkind := Lexeme.ofChar?_of_first? hfirst
      rw [hkind'] at hkind
      exact ⟨expecting, step_refuses_kind hstep (Option.some.inj hkind)⟩

/-- What was taken, with the character at fault after it, is the start of
no expression. -/
theorem read_ne_ok_of_halts {reading : Reading} {text : List Char} {c : Char}
    {rest : List Char} (h : Takes (c :: rest) (form []) text reading)
    (hhalts : reading.Halts (c :: rest)) (hclosed : ¬(c = '"' ∧ '"' ∉ rest))
    (more : List Char) (v : Value) : read (text ++ c :: more) ≠ .ok v := by
  obtain ⟨failure, hread, -⟩ :=
    read_of_halts (h.rest_congr more) (hhalts.rest_congr hclosed more) (by simp)
  rw [hread]
  exact nofun

end Reading

open Reading

/-- A text that is refused is refused at one offset, which is where it
stops being the start of an expression: what comes before can be
completed, and what comes before with one more character cannot, unless
that character is the double quote of a string that never ends. -/
theorem read_error_at_dead_end {text : List Char} {failure : Failure}
    (h : read text = .error failure) :
    ∃ detail position k, failure = .unreadable detail position ∧ k ≤ text.length
      ∧ (∀ j ≤ text.length, Position.endOf (text.take j) = position ↔ j = k)
      ∧ (∃ more v, read (text.take k ++ more) = .ok v)
      ∧ ∀ c, text[k]? = some c → ¬(c = '"' ∧ '"' ∉ text.drop (k + 1)) →
          ∀ more v, read (text.take (k + 1) ++ more) ≠ .ok v := by
  obtain ⟨taken, rest, reading, rfl, htakes, hhalts, -, detail, rfl⟩ :=
    exists_halts_of_read_error h
  have htake : (taken ++ rest).take taken.length = taken := by simp
  have hle : taken.length ≤ (taken ++ rest).length := by simp
  refine ⟨detail, _, taken.length, rfl, hle, fun j hj => ?_, ?_, fun c hc hclosed more v => ?_⟩
  · constructor
    · intro hplace
      rw [Position.after_start] at hplace
      exact Position.endOf_take_inj hj hle (by rw [hplace, htake])
    · rintro rfl
      rw [htake, Position.after_start]
  · obtain ⟨more, v, hv⟩ := (reached_of_takes htakes).complete
    exact ⟨more, v, read_eq_ok_iff_spells.2 (by rwa [htake])⟩
  · cases rest with
    | nil => simp at hc
    | cons d rest =>
        obtain rfl : d = c := by simpa using hc
        have hsplit : taken ++ d :: rest = (taken ++ [d]) ++ rest := by simp
        have hlength : (taken ++ [d]).length = taken.length + 1 := List.length_append
        rw [hsplit, List.drop_left' hlength] at hclosed
        rw [hsplit, List.take_left' hlength, List.append_assoc]
        exact read_ne_ok_of_halts htakes hhalts hclosed more v

/-- A bracket on the second line: the nine characters before it can be
completed, and no expression starts with the ten. -/
theorem read_error_at_dead_end_bracket :
    read "(+ 1\n  2 ]".toList = .error (.unreadable "unexpected character \"]\"" ⟨2, 5⟩)
      ∧ (∃ more v, read ("(+ 1\n  2 ".toList ++ more) = .ok v)
      ∧ ∀ more v, read ("(+ 1\n  2 ]".toList ++ more) ≠ .ok v := by
  have hread : read "(+ 1\n  2 ]".toList
      = .error (.unreadable "unexpected character \"]\"" ⟨2, 5⟩) := by
    with_unfolding_all rfl
  obtain ⟨detail, position, k, hfailure, hk, hplace, hgood, hbad⟩ := read_error_at_dead_end hread
  cases hfailure
  obtain rfl : 9 = k := (hplace 9 (by decide)).1 (by decide)
  exact ⟨hread, hgood, hbad ']' (by decide) (by decide)⟩

end PocketScheme
