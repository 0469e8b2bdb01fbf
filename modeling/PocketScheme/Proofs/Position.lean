/-
Places and offsets. The place that is moved along character by character
(`Position.after`) is, at any time, what can be read off the text passed
so far: one line for every line feed in it, and one column for every
character after the last of them (`endOf`, `after_start`).

A text that goes on, goes on to a later place, so a place in a text
belongs to one offset only (`endOf_take_inj`).
-/
import PocketScheme.Position

namespace PocketScheme.Position

/-- The place where a text ends. -/
def endOf (text : List Char) : Position :=
  ⟨1 + text.count '\n', 1 + (text.reverse.takeWhile (· != '\n')).length⟩

/-- One more character moves the end of a text as it moves any place. -/
theorem advance_endOf (text : List Char) (c : Char) :
    (endOf text).advance c = endOf (text ++ [c]) := by
  by_cases hc : c = '\n'
  · subst hc
    simp [endOf, advance]
    omega
  · simp [endOf, advance, hc]
    omega

theorem after_endOf (text more : List Char) :
    (endOf text).after more = endOf (text ++ more) := by
  induction more generalizing text with
  | nil => rw [after_nil, List.append_nil]
  | cons c more ih =>
      rw [after_cons, advance_endOf, ih, List.append_assoc]
      rfl

/-- Passing a text from its start leads to where it ends. -/
theorem after_start (text : List Char) : Position.after {} text = endOf text :=
  after_endOf [] text

/-- A text that goes on ends at another place. -/
theorem eq_nil_of_endOf_append {text more : List Char} (h : endOf (text ++ more) = endOf text) :
    more = [] := by
  simp only [endOf, mk.injEq, List.count_append] at h
  obtain ⟨hline, hcolumn⟩ := h
  have hcount : more.count '\n' = 0 := by omega
  have hplain : ∀ c ∈ more.reverse, (c != '\n') = true := by
    intro c hc
    simpa using ne_of_mem_of_not_mem (List.mem_reverse.1 hc) (List.count_eq_zero.1 hcount)
  rw [List.reverse_append, List.takeWhile_append_of_pos hplain, List.length_append,
    List.length_reverse] at hcolumn
  exact List.length_eq_zero_iff.1 (by omega)

/-- A later offset of a text has another place. -/
theorem eq_of_endOf_take_of_le {text : List Char} {j k : Nat} (hle : j ≤ k)
    (hk : k ≤ text.length) (h : endOf (text.take k) = endOf (text.take j)) : j = k := by
  have hsplit : text.take j ++ (text.take k).drop j = text.take k := by
    have hsplit := List.take_append_drop j (text.take k)
    rwa [List.take_take, Nat.min_eq_left hle] at hsplit
  rw [← hsplit] at h
  have hlength := congrArg List.length (eq_nil_of_endOf_append h)
  rw [List.length_drop, List.length_take, Nat.min_eq_left hk, List.length_nil] at hlength
  omega

/-- Two offsets of a text with one place are the same. -/
theorem endOf_take_inj {text : List Char} {j k : Nat} (hj : j ≤ text.length)
    (hk : k ≤ text.length) (h : endOf (text.take j) = endOf (text.take k)) : j = k := by
  rcases Nat.le_total j k with hle | hle
  · exact eq_of_endOf_take_of_le hle hk h.symm
  · exact (eq_of_endOf_take_of_le hle hj h).symm

end PocketScheme.Position
