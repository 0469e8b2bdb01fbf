/-
Sets of code points as ascending lists of closed ranges, the form in
which character properties are tabulated.

The search stops at the first range above the number it looks for, so
that the characters at the low end of a table, which are the frequent
ones, are found or refused after a few comparisons. A list of ranges is
a table only together with the proof that it ascends (`Ranges`), which is
checked where the table is written down; so stopping early loses nothing
(`holds_iff`), and no use of a table has to ask for that again.
-/

namespace PocketScheme.Text

namespace Ranges

/-- Whether closed ranges start above a number, are not empty, and each
starts above the end of the one before. -/
def ascendFrom (floor : Nat) : List (Nat × Nat) → Bool
  | [] => true
  | (low, high) :: above => floor ≤ low && low ≤ high && ascendFrom (high + 1) above

/-- Whether one of some ranges holds the number, up to the first that
starts above it. -/
def search : List (Nat × Nat) → Nat → Bool
  | [], _ => false
  | (low, high) :: above, n =>
    if n < low then false else if n ≤ high then true else search above n

/-- Ranges that ascend from a number hold nothing below it. -/
theorem floor_le_of_ascendFrom {floor : Nat} {ranges : List (Nat × Nat)}
    (h : ascendFrom floor ranges = true) {range : Nat × Nat} (hmem : range ∈ ranges) :
    floor ≤ range.1 := by
  induction ranges generalizing floor with
  | nil => cases hmem
  | cons first above ih =>
    obtain ⟨low, high⟩ := first
    simp only [ascendFrom, Bool.and_eq_true, decide_eq_true_eq] at h
    rcases List.mem_cons.1 hmem with rfl | hmem
    · exact h.1.1
    · have := ih h.2 hmem
      omega

/-- The search in ranges that ascend from a number finds exactly what
lies in one of them. -/
theorem search_iff {floor : Nat} {ranges : List (Nat × Nat)}
    (h : ascendFrom floor ranges = true) (n : Nat) :
    search ranges n = true ↔ ∃ range ∈ ranges, range.1 ≤ n ∧ n ≤ range.2 := by
  induction ranges generalizing floor with
  | nil => simp [search]
  | cons first above ih =>
    obtain ⟨low, high⟩ := first
    simp only [ascendFrom, Bool.and_eq_true, decide_eq_true_eq] at h
    simp only [search, List.mem_cons, exists_eq_or_imp]
    by_cases hlow : n < low
    · rw [if_pos hlow]
      refine ⟨fun hfalse => absurd hfalse (by decide), ?_⟩
      rintro (⟨hle, -⟩ | ⟨range, hmem, hle, -⟩)
      · exact absurd hle (by omega)
      · have := floor_le_of_ascendFrom h.2 hmem
        omega
    · rw [if_neg hlow]
      by_cases hhigh : n ≤ high
      · rw [if_pos hhigh]
        exact ⟨fun _ => .inl ⟨by omega, hhigh⟩, fun _ => rfl⟩
      · rw [if_neg hhigh, ih h.2]
        exact ⟨.inr, fun hor => hor.resolve_left fun hin => hhigh hin.2⟩

end Ranges

/-- A set of code points: closed ranges that ascend. -/
structure Ranges where
  list : List (Nat × Nat)
  ascends : Ranges.ascendFrom 0 list = true := by decide +kernel

namespace Ranges

/-- Whether one of the ranges holds the number. -/
def holds (table : Ranges) (n : Nat) : Bool := search table.list n

/-- The search in a table finds exactly the numbers that lie in one of
its ranges. -/
theorem holds_iff (table : Ranges) (n : Nat) :
    table.holds n = true ↔ ∃ range ∈ table.list, range.1 ≤ n ∧ n ≤ range.2 :=
  search_iff table.ascends n

end Ranges

end PocketScheme.Text
