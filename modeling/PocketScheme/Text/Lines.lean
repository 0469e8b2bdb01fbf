/-
Lines: a text ends a line at each line feed and nowhere else. A text
that ends in a line feed has no further line after it; one that does not
has a last line without one.
-/

namespace PocketScheme.Text

/-- The lines of a text, without their line feeds. -/
def lines (input : List Char) : List (List Char) :=
  if _h : input = [] then []
  else input.takeWhile (· != '\n') :: lines ((input.dropWhile (· != '\n')).drop 1)
termination_by input.length
decreasing_by
  have hpos := List.length_pos_iff.2 _h
  have hlen : (input.dropWhile (· != '\n')).length ≤ input.length :=
    (List.dropWhile_suffix _).length_le
  simp only [List.length_drop]
  omega

/-- The empty text has no line. -/
@[simp] theorem lines_nil : lines [] = [] := by
  rw [lines]
  simp

/-- A line with its line feed is the first line of a text that starts
with it. -/
theorem lines_append_cons {line : List Char} (h : '\n' ∉ line) (rest : List Char) :
    lines (line ++ '\n' :: rest) = line :: lines rest := by
  have hall : ∀ c ∈ line, (c != '\n') = true := fun c hc => by
    rw [bne_iff_ne]
    rintro rfl
    exact h hc
  rw [lines, dif_neg (by simp), List.takeWhile_append_of_pos hall,
    List.dropWhile_append_of_pos hall]
  simp

end PocketScheme.Text
