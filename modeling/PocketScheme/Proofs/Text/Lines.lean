/-
Texts as lines.

A text is empty, or it is one line without a line feed, or it is a line
with its line feed and a text behind it. What is said of lines is proved
along these cases (`lines_induction`).

No line holds a line feed. Two texts one behind the other have the lines
of the first and those of the second, unless the first leaves its last
line open (`lines_append`). Texts without line feeds, each ended by one,
are the lines of the text that they make (`lines_flatMap`).
-/
import PocketScheme.Proofs.Text.Classes
import PocketScheme.Text.Lines

namespace PocketScheme.Text

/-- Induction on texts, line by line. -/
theorem lines_induction {motive : List Char → Prop} (nil : motive [])
    (last : ∀ line, line ≠ [] → '\n' ∉ line → motive line)
    (line : ∀ line rest, '\n' ∉ line → motive rest → motive (line ++ '\n' :: rest))
    (text : List Char) : motive text := by
  by_cases hmem : '\n' ∈ text
  · obtain ⟨front, rest, htext, hfront⟩ := List.eq_append_cons_of_mem hmem
    have hshorter : rest.length < text.length := by
      rw [htext, List.length_append, List.length_cons]
      omega
    rw [htext]
    exact line front rest hfront (lines_induction nil last line rest)
  · by_cases hnil : text = []
    · exact hnil ▸ nil
    · exact last text hnil hmem
termination_by text.length
decreasing_by exact hshorter

/-- A last line may lack its line feed. -/
theorem lines_of_notMem {line : List Char} (hne : line ≠ []) (h : '\n' ∉ line) :
    lines line = [line] := by
  have hall : ∀ c ∈ line, (c != '\n') = true := fun c hc => by
    rw [bne_iff_ne]
    rintro rfl
    exact h hc
  have htake := takeWhile_of_stops hall (stops_nil _)
  have hdrop := dropWhile_of_stops hall (stops_nil _)
  rw [List.append_nil] at htake hdrop
  rw [lines, dif_neg hne, htake, hdrop, List.drop_nil, lines_nil]

/-- No line holds a line feed. -/
theorem newline_not_mem_of_mem_lines {text line : List Char} (h : line ∈ lines text) :
    '\n' ∉ line := by
  induction text using lines_induction with
  | nil => simp at h
  | last front hne hfront =>
      rw [lines_of_notMem hne hfront] at h
      rwa [List.mem_singleton.1 h]
  | line front rest hfront ih =>
      rw [lines_append_cons hfront] at h
      rcases List.mem_cons.1 h with rfl | hmore
      · exact hfront
      · exact ih hmore

/-- Whether a text has no last line that lacks its line feed. -/
def Closed (text : List Char) : Prop := text = [] ∨ text.getLast? = some '\n'

instance decClosed : DecidablePred Closed := fun text =>
  inferInstanceAs (Decidable (text = [] ∨ text.getLast? = some '\n'))

theorem Closed.of_append_cons {line rest : List Char} (h : Closed (line ++ '\n' :: rest)) :
    Closed rest := by
  rcases h with h | h
  · simp at h
  · cases rest with
    | nil => exact .inl rfl
    | cons c rest => exact .inr (by simpa using h)

/-- The lines of one text behind another are theirs, one after the
other. -/
theorem lines_append {text : List Char} (h : Closed text) (rest : List Char) :
    lines (text ++ rest) = lines text ++ lines rest := by
  induction text using lines_induction with
  | nil => simp
  | last line hne hline =>
      rcases h with h | h
      · exact absurd h hne
      · exact absurd (List.mem_of_getLast? h) hline
  | line line more hline ih =>
      rw [List.append_assoc, List.cons_append, lines_append_cons hline, lines_append_cons hline,
        ih h.of_append_cons, List.cons_append]

/-- Texts with no line feed, each ended by one, are the lines of what they
make together. -/
theorem lines_flatMap {texts : List (List Char)} (h : ∀ text ∈ texts, '\n' ∉ text) :
    lines (texts.flatMap fun text => text ++ ['\n']) = texts := by
  induction texts with
  | nil => simp
  | cons text texts ih =>
      obtain ⟨htext, hmore⟩ := List.forall_mem_cons.1 h
      rw [List.flatMap_cons, List.append_assoc, List.singleton_append, lines_append_cons htext,
        ih hmore]

theorem count_newline_flatMap {texts : List (List Char)} (h : ∀ text ∈ texts, '\n' ∉ text) :
    (texts.flatMap fun text => text ++ ['\n']).count '\n' = texts.length := by
  induction texts with
  | nil => rfl
  | cons text texts ih =>
      obtain ⟨htext, hmore⟩ := List.forall_mem_cons.1 h
      rw [List.flatMap_cons, List.count_append, ih hmore, List.count_append,
        List.count_eq_zero.2 htext, List.length_cons]
      simp [Nat.add_comm]

end PocketScheme.Text
