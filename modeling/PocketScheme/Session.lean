/-
One text in, one text out: read it, evaluate what was read, and give the
value or the failure in words. Nothing is carried from one text to the
next.

A report holds the answer and the log of how it came about: what was
read, every application, and the failure if there is one. The answer is
no different for being logged.
-/
import PocketScheme.Evaluation
import PocketScheme.Log.Record
import PocketScheme.Reading
import PocketScheme.Text.Quoted

namespace PocketScheme

/-- The value of the one expression that a text is. -/
def evaluateText (code : List Char) : Except Failure Value := do
  let form ← read code
  evaluate form

theorem evaluateText_of_read {code : List Char} {form : Value} (h : read code = .ok form) :
    evaluateText code = evaluate form := by
  rw [evaluateText, h]
  rfl

namespace Session

open Text

/-- An answer and the log of how it came about. -/
structure Report where
  answer : List Char
  log : List Log.Record

/-- The record of a text that was read. -/
def readRecord (code : List Char) (form : Value) : Log.Record :=
  ⟨.debug, "schemelet.reader.parser",
    "Read ".toList ++ Quoted.encode code ++ " as ".toList ++ form.render⟩

/-- The record of an application. -/
def applicationRecord (application : Application) : Log.Record :=
  ⟨.debug, "schemelet.evaluation.apply",
    "Applying ".toList ++ application.name.toList ++ " to (".toList
      ++ Value.renderAll application.arguments ++ [')']⟩

/-- The record of a failure. -/
def failureRecord (code : List Char) (failure : Failure) : Log.Record :=
  ⟨.info, "schemelet.interpreter",
    "Evaluation of ".toList ++ Quoted.encode code ++ " failed: ".toList ++ failure.render⟩

/-- The answer to a text, which is the text of its value or the message
of its failure, and the log of how it came about. -/
def report (code : List Char) : Report :=
  match read code with
  | .error failure => ⟨failure.render, [failureRecord code failure]⟩
  | .ok form =>
    let evaluation := evaluateTraced form
    let records := readRecord code form :: evaluation.applications.map applicationRecord
    match evaluation.outcome with
    | .ok v => ⟨v.render, records⟩
    | .error failure => ⟨failure.render, records ++ [failureRecord code failure]⟩

/-- The answer is the text of the value, or the message of the failure,
whatever is logged. -/
theorem answer_report (code : List Char) :
    (report code).answer =
      match evaluateText code with
      | .ok v => v.render
      | .error failure => failure.render := by
  simp only [report, evaluateText, evaluate]
  cases read code with
  | error failure => rfl
  | ok form =>
    simp only [bind, Except.bind]
    cases (evaluateTraced form).outcome <;> rfl

end Session

end PocketScheme
