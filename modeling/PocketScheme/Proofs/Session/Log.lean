/-
The log of a text: what its records say is what took place.

The log is put together of records of three kinds, but what is in it is
decided by the evaluation, and what the list of applications tells of
the outcome is known (`truthful_evaluateTraced`). So from the records
alone one can say how the evaluation went.

A record is told here by its level, the part of the library that it is
from and its words. The arguments of an application stand in it as the
text of the list of them (`applicationRecord_eq`), and the words for a
failure end in the answer (`failureRecord_eq`); so the record that shows
to the user says what the user is answered.
-/
import PocketScheme.Proofs.Evaluation.Trace

namespace PocketScheme

namespace Session

open Text

-- ============================================================= records

/-- The text of a list is that of its items in parentheses. -/
theorem render_list (items : List Value) :
    (Value.list items).render = '(' :: (Value.renderAll items ++ [')']) := by
  cases items with
  | nil => rfl
  | cons first more => rfl

theorem applicationRecord_eq (application : Application) :
    applicationRecord application = ⟨.debug, "schemelet.evaluation.apply",
      "Applying ".toList ++ application.name.toList ++ " to ".toList
        ++ (Value.list application.arguments).render⟩ := by
  rw [render_list]
  simp [applicationRecord]

theorem failureRecord_eq {code : List Char} {failure : Failure}
    (h : (report code).answer = failure.render) :
    failureRecord code failure = ⟨.info, "schemelet.interpreter",
      "Evaluation of ".toList ++ Quoted.encode code ++ " failed: ".toList
        ++ (report code).answer⟩ := by
  rw [h]
  rfl

-- ============================================================= reports

theorem report_of_read_error {code : List Char} {failure : Failure}
    (h : read code = .error failure) :
    report code = ⟨failure.render, [failureRecord code failure]⟩ := by
  rw [report, h]

section Forms

variable {code : List Char} {form : Value} (h : read code = .ok form)

include h

theorem report_of_ok {v : Value} (hv : evaluate form = .ok v) :
    report code = ⟨v.render,
      readRecord code form :: (evaluateTraced form).applications.map applicationRecord⟩ := by
  have houtcome : (evaluateTraced form).outcome = .ok v := hv
  rw [report, h]
  simp only [houtcome]

theorem report_of_error {failure : Failure} (hfailure : evaluate form = .error failure) :
    report code = ⟨failure.render,
      readRecord code form :: (evaluateTraced form).applications.map applicationRecord
        ++ [failureRecord code failure]⟩ := by
  have houtcome : (evaluateTraced form).outcome = .error failure := hfailure
  rw [report, h]
  simp only [houtcome]

end Forms

end Session

open Session Text

/-- The log of a text tells what took place. A text that is no expression
has one record, that evaluating it failed and how. Any other has the
record of what it was read as, those of the applications with their
names and arguments, and the one of the failure if there is one; what
that says of the failure is the answer. All applications have a value if
the form has one, or if its failure is a refusal. If the failure is one
of primitives, it is that of the last application, and all before have a
value. And a call whose operands have values is the last application. -/
theorem log_tells_evaluation (code : List Char) :
    let answer := (report code).answer
    let log := (report code).log
    let failed : Log.Record := ⟨.info, "schemelet.interpreter",
      "Evaluation of ".toList ++ Quoted.encode code ++ " failed: ".toList ++ answer⟩
    (∀ failure, read code = .error failure → answer = failure.render ∧ log = [failed])
      ∧ ∀ form, read code = .ok form →
          let applications := (evaluateTraced form).applications
          let wasRead : Log.Record := ⟨.debug, "schemelet.reader.parser",
            "Read ".toList ++ Quoted.encode code ++ " as ".toList ++ form.render⟩
          let applied (application : Application) : Log.Record :=
            ⟨.debug, "schemelet.evaluation.apply",
              "Applying ".toList ++ application.name.toList ++ " to ".toList
                ++ (Value.list application.arguments).render⟩
          (∀ v, evaluate form = .ok v →
              answer = v.render ∧ log = wasRead :: applications.map applied
                ∧ ∀ application ∈ applications, application.Succeeds)
            ∧ (∀ failure, evaluate form = .error failure →
                answer = failure.render ∧ log = wasRead :: applications.map applied ++ [failed]
                  ∧ (failure.category ∈ [.badForm, .unknownProcedure]
                        ∧ (∀ application ∈ applications, application.Succeeds)
                      ∨ failure.category ∈ [.arity, .mismatch, .divisionByZero]
                        ∧ ∃ before last, applications = before ++ [last]
                          ∧ (∀ application ∈ before, application.Succeeds)
                          ∧ apply last.name last.arguments = .error failure))
            ∧ ∀ (p : Primitive) operands arguments, form = .list (.atom p.name :: operands) →
                operands.map evaluate = arguments.map .ok →
                ∃ before, applications = before ++ [⟨p.name, arguments⟩] := by
  intro answer log failed
  refine ⟨fun failure hread => ?_, fun form hread => ?_⟩
  · have hreport := report_of_read_error hread
    have hanswer : answer = failure.render := congrArg Report.answer hreport
    have hlog : log = [failureRecord code failure] := congrArg Report.log hreport
    rw [failureRecord_eq hanswer] at hlog
    exact ⟨hanswer, hlog⟩
  · have htruthful := truthful_evaluateTraced form
    intro applications wasRead applied
    have happlied : applicationRecord = applied := funext applicationRecord_eq
    refine ⟨fun v hv => ?_, fun failure hfailure => ?_, ?_⟩
    · have hreport := report_of_ok hread hv
      rw [happlied] at hreport
      exact ⟨congrArg Report.answer hreport, congrArg Report.log hreport, htruthful.of_ok hv⟩
    · have hreport := report_of_error hread hfailure
      have hanswer : answer = failure.render := congrArg Report.answer hreport
      rw [happlied, failureRecord_eq hanswer] at hreport
      exact ⟨hanswer, congrArg Report.log hreport, htruthful.of_error hfailure⟩
    · intro p operands arguments hform hoperands
      subst hform
      exact ⟨_, applications_call hoperands⟩

end PocketScheme
