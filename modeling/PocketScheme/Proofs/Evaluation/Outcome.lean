/-
The outcome of an evaluation, as equations that no longer mention the
list of applications: one for every rule of evaluation.

An evaluation is a computation with a trace, and its outcome is that of
the same computation without one (`outcome_bind`). The operands of a
call are evaluated as `mapM` evaluates them, from left to right and up
to the first failure (`outcome_evaluateAllTraced`).
-/
import PocketScheme.Evaluation

namespace PocketScheme

namespace Traced

variable {α β : Type}

@[simp] theorem outcome_pure (a : α) : (pure a : Traced α).outcome = .ok a := rfl

@[simp] theorem outcome_fail (failure : Failure) :
    (fail failure : Traced α).outcome = .error failure := rfl

/-- The outcome of one computation after another is that of their
outcomes. -/
@[simp] theorem outcome_bind (first : Traced α) (next : α → Traced β) :
    (first >>= next).outcome = first.outcome >>= fun a => (next a).outcome := by
  obtain ⟨applications, outcome⟩ := first
  cases outcome with
  | error failure => rfl
  | ok a => rfl

/-- The outcome of an application is what the application gives, whether
it is listed or not. -/
@[simp] theorem outcome_call (name : String) (arguments : List Value) :
    (call name arguments).outcome = apply name arguments := by
  unfold call
  split
  · rfl
  · rfl

end Traced

-- ================================================== rules of evaluation

/-- A choice between two branches, as a form. -/
def choice (condition thenForm elseForm : Value) : Value :=
  .list [.atom "if", condition, thenForm, elseForm]

@[simp] theorem evaluate_str (text : String) : evaluate (.str text) = .ok (.str text) := by
  rw [evaluate, evaluateTraced, Traced.outcome_pure]

@[simp] theorem evaluate_int (n : Int) : evaluate (.int n) = .ok (.int n) := by
  rw [evaluate, evaluateTraced, Traced.outcome_pure]

@[simp] theorem evaluate_bool (b : Bool) : evaluate (.bool b) = .ok (.bool b) := by
  rw [evaluate, evaluateTraced, Traced.outcome_pure]

/-- A quoted form is its own value. -/
@[simp] theorem evaluate_quote (form : Value) :
    evaluate (.list [.atom "quote", form]) = .ok form := by
  rw [evaluate, evaluateTraced]
  rfl

/-- A choice evaluates its condition and one of its branches. -/
theorem evaluate_choice (condition thenForm elseForm : Value) :
    evaluate (choice condition thenForm elseForm) =
      evaluate condition >>= fun v =>
        if v = .bool false then evaluate elseForm else evaluate thenForm := by
  have hname : SpecialForm.ofName? "if" = some .choice := by decide
  simp only [choice, evaluate, evaluateTraced, hname, Traced.outcome_bind]
  congr 1
  funext v
  split
  · rfl
  · rfl

/-- Operands are evaluated from left to right, up to the first
failure. -/
theorem outcome_evaluateAllTraced (forms : List Value) :
    (evaluateAllTraced forms).outcome = forms.mapM evaluate := by
  induction forms with
  | nil => rw [evaluateAllTraced, List.mapM_nil, Traced.outcome_pure]; rfl
  | cons form forms ih =>
      rw [evaluateAllTraced, List.mapM_cons, ← ih]
      simp [evaluate]
      rfl

/-- A call applies what its name stands for to the values of its
operands. -/
theorem evaluate_call {name : String} (h : SpecialForm.ofName? name = none)
    (operands : List Value) :
    evaluate (.list (.atom name :: operands)) = operands.mapM evaluate >>= apply name := by
  rw [evaluate, evaluateTraced.eq_def]
  simp [h, outcome_evaluateAllTraced]

end PocketScheme
