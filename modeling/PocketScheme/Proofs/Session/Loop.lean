/-
The loop: one line of output for every line that asks something, and
nothing carried from line to line.

What the loop writes and logs for lines is put together of what it does
for each (`answered`), so lines behind other lines change nothing before
them, and only the prompt that asks for the end of the input has to make
place for them (`overLines_append`). On the level of texts this needs
that the first of two inputs has no open last line (`lines_append`).

A line has no line feed, what is left of it without blanks has none, and
so its answer has none (`newline_not_mem_answer`). So the lines of the
output are the answers.
-/
import PocketScheme.Loop
import PocketScheme.Proofs.Session.Line
import PocketScheme.Proofs.Text.Lines

namespace PocketScheme.Loop

open Text

-- ========================================================== transcripts

namespace Transcript

theorem append_assoc (first second third : Transcript) :
    first ++ second ++ third = first ++ (second ++ third) := by
  show Transcript.mk _ _ = Transcript.mk _ _
  rw [output_append, output_append, log_append, log_append, List.append_assoc, List.append_assoc]

@[simp] theorem written_nil_append (transcript : Transcript) :
    written [] ++ transcript = transcript := rfl

@[simp] theorem append_written_nil (transcript : Transcript) :
    transcript ++ written [] = transcript := by
  show Transcript.mk _ _ = _
  simp [written]

end Transcript

@[simp] theorem ask_false : ask false = .written [] := rfl

@[simp] theorem output_ask_true : (ask true).output = prompt := rfl

-- ======================================================== line after line

/-- What takes place over lines until the next one is asked for. -/
def answered (terminal : Bool) : List (List Char) → Transcript
  | [] => .written []
  | line :: more => ask terminal ++ replyToLine line ++ answered terminal more

theorem overLines_append (terminal : Bool) (before after : List (List Char)) :
    overLines terminal (before ++ after) =
      answered terminal before ++ overLines terminal after := by
  induction before with
  | nil => simp [answered]
  | cons line before ih =>
      rw [List.cons_append, overLines, answered, ih]
      simp only [Transcript.append_assoc]

/-- After the lines the end of the input is asked for. -/
theorem overLines_eq (terminal : Bool) (lines : List (List Char)) :
    overLines terminal lines = answered terminal lines ++ ask terminal := by
  have h := overLines_append terminal lines []
  rwa [List.append_nil] at h

theorem output_answered (terminal : Bool) (lines : List (List Char)) :
    (answered terminal lines).output =
      lines.flatMap fun line => (ask terminal).output ++ (replyToLine line).output := by
  induction lines with
  | nil => rfl
  | cons line lines ih =>
      rw [answered, Transcript.output_append, Transcript.output_append, ih, List.flatMap_cons]

-- ============================================================= questions

/-- The texts that lines ask about: what is left of each without the
blanks around it, if anything is. -/
def questions (lines : List (List Char)) : List (List Char) :=
  (lines.map strip).filter (· ≠ [])

theorem mem_of_mem_strip {c : Char} {text : List Char} (h : c ∈ strip text) : c ∈ text :=
  (List.dropWhile_suffix _).subset (mem_of_mem_stripBack h)

theorem newline_not_mem_of_mem_questions {input code : List Char}
    (h : code ∈ questions (lines input)) : '\n' ∉ code := by
  obtain ⟨line, hline, rfl⟩ := List.mem_map.1 (List.mem_filter.1 h).1
  exact fun hmem => newline_not_mem_of_mem_lines hline (mem_of_mem_strip hmem)

/-- The replies to lines are those to their questions. -/
theorem flatMap_replyToLine (lines : List (List Char)) :
    (lines.flatMap fun line => (replyToLine line).output) =
      (questions lines).flatMap fun code => (Session.report code).answer ++ ['\n'] := by
  induction lines with
  | nil => rfl
  | cons line lines ih =>
      rw [List.flatMap_cons, ih, questions, questions, List.map_cons, replyToLine]
      cases strip line with
      | nil => rfl
      | cons c code => rfl

end Loop

open Loop Text

/-- The loop keeps the lines apart. Without a terminal the lines of its
output are the answers to the lines of its input that are not blank, in
their order, each without the blanks around it and each answered by one
line. On a terminal there is the prompt before each line and at the end
besides. And what an input gets is that of its first part and that of the
rest, if the first part is empty or ends a line: only the prompt that asks
for the end of the first part is not there. -/
theorem loop_answers_lines :
    (∀ input : List Char,
        let answers := (questions (lines input)).map fun code => (Session.report code).answer
        (∀ answer ∈ answers, '\n' ∉ answer)
          ∧ (Loop.run false input).output = (answers.flatMap fun answer => answer ++ ['\n'])
          ∧ lines (Loop.run false input).output = answers
          ∧ (Loop.run false input).output.count '\n' = (questions (lines input)).length
          ∧ (Loop.run false input).output =
              ((lines input).flatMap fun line => (replyToLine line).output)
          ∧ (Loop.run true input).output =
              ((lines input).flatMap fun line => prompt ++ (replyToLine line).output) ++ prompt)
      ∧ ∀ first rest : List Char, Closed first →
          Loop.run false (first ++ rest) = Loop.run false first ++ Loop.run false rest
            ∧ ∃ before : Transcript, Loop.run true first = before ++ .written prompt
                ∧ Loop.run true (first ++ rest) = before ++ Loop.run true rest := by
  refine ⟨fun input => ?_, fun first rest hfirst => ?_⟩
  · intro answers
    have hanswers : ∀ answer ∈ answers, '\n' ∉ answer := by
      intro answer hmem
      obtain ⟨code, hcode, rfl⟩ := List.mem_map.1 hmem
      exact newline_not_mem_answer (newline_not_mem_of_mem_questions hcode)
    have hreplies : (Loop.run false input).output =
        ((lines input).flatMap fun line => (replyToLine line).output) := by
      rw [Loop.run, overLines_eq, Transcript.output_append, output_answered]
      simp [Transcript.written]
    have houtput : (Loop.run false input).output =
        (answers.flatMap fun answer => answer ++ ['\n']) := by
      rw [hreplies, flatMap_replyToLine, List.flatMap_map]
    refine ⟨hanswers, houtput, ?_, ?_, hreplies, ?_⟩
    · rw [houtput, lines_flatMap hanswers]
    · rw [houtput, count_newline_flatMap hanswers, List.length_map]
    · rw [Loop.run, overLines_eq, Transcript.output_append, output_answered, output_ask_true]
  · have hrun (terminal : Bool) : Loop.run terminal (first ++ rest) =
        answered terminal (lines first) ++ Loop.run terminal rest := by
      rw [Loop.run, lines_append hfirst, overLines_append, Loop.run]
    refine ⟨?_, answered true (lines first), overLines_eq true (lines first), hrun true⟩
    have hfirstRun : Loop.run false first = answered false (lines first) := by
      rw [Loop.run, overLines_eq, ask_false, Transcript.append_written_nil]
    rw [hrun false, hfirstRun]

/-- A quoted name and a blank line, and a bare name on an open line behind
them, which fails. -/
theorem loop_answers_lines_name :
    Closed "'b\n\t\n".toList
      ∧ (Loop.run false ("'b\n\t\n".toList ++ " x".toList)).output =
          "b\nUnrecognized special form: x\n".toList
      ∧ ∃ before : Transcript,
          before.output = "schemelet> b\nschemelet> ".toList
            ∧ Loop.run true ("'b\n\t\n".toList ++ " x".toList) =
                before ++ Loop.run true " x".toList := by
  have hclosed : Closed "'b\n\t\n".toList := by decide
  obtain ⟨happend, before, hfirst, hrest⟩ := loop_answers_lines.2 _ " x".toList hclosed
  have hb : (Loop.run false "'b\n\t\n".toList).output = "b\n".toList := by cbv
  have hx : (Loop.run false " x".toList).output =
      "Unrecognized special form: x\n".toList := by decide +kernel
  have hprompted : (Loop.run true "'b\n\t\n".toList).output =
      "schemelet> b\nschemelet> ".toList ++ prompt := by cbv
  refine ⟨hclosed, ?_, before, ?_, hrest⟩
  · rw [happend, Transcript.output_append, hb, hx]
    rfl
  · rw [hfirst, Transcript.output_append] at hprompted
    exact List.append_cancel_right hprompted

end PocketScheme
