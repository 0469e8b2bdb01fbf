/-
The loop: every line of the input is a text of its own, and gets an
answer of one line.

Lines end at the line feed only, and the last one may lack it. Each is
stripped of blanks; one that has nothing left gets no answer. On a
terminal the prompt is written before each line is read, and once more
before the end of the input is found.
-/
import PocketScheme.Session
import PocketScheme.Text.Lines

namespace PocketScheme.Loop

open Text

/-- What the loop asks for a line with. -/
def prompt : List Char := "schemelet> ".toList

/-- What is written and logged. -/
structure Transcript where
  output : List Char
  log : List Log.Record

namespace Transcript

/-- A text that is written without anything being logged. -/
def written (text : List Char) : Transcript := ⟨text, []⟩

/-- One transcript after another. -/
instance : Append Transcript where
  append first second := ⟨first.output ++ second.output, first.log ++ second.log⟩

@[simp] theorem output_append (first second : Transcript) :
    (first ++ second).output = first.output ++ second.output := rfl

@[simp] theorem log_append (first second : Transcript) :
    (first ++ second).log = first.log ++ second.log := rfl

end Transcript

/-- The answer to a text, on a line of its own. -/
def reply (code : List Char) : Transcript :=
  let report := Session.report code
  ⟨report.answer ++ ['\n'], report.log⟩

/-- The answer to one line of input, which is none if the line is
blank. -/
def replyToLine (line : List Char) : Transcript :=
  match strip line with
  | [] => .written []
  | code => reply code

/-- What asks for the next line: the prompt on a terminal, elsewhere
nothing. -/
def ask (terminal : Bool) : Transcript := .written (if terminal then prompt else [])

/-- The loop over lines: each is asked for and answered, and so is the
end asked for. -/
def overLines (terminal : Bool) : List (List Char) → Transcript
  | [] => ask terminal
  | line :: more => ask terminal ++ replyToLine line ++ overLines terminal more

/-- The loop over an input. -/
def run (terminal : Bool) (input : List Char) : Transcript := overLines terminal (lines input)

end PocketScheme.Loop
