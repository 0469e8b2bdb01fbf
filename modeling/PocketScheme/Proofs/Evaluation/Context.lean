/-
Evaluation in context: what the outcome of a form has to do with the
form that it stands in.

A context is a form with a hole where evaluation may come: on the way to
the hole there are only operands of calls, and conditions and branches
of choices. Quoted forms and operands of a malformed special form are no
such places, so a call in a context carries the proof that its name is
no special form's.

The outcome of the whole depends on what is in the hole by the outcome
of that alone (`evaluate_fill`), whether it is a value or a failure. It
is one step up a context at a time: a call looks at the outcomes of its
operands, a choice at those of its condition and of one branch, and no
failure that either raises itself carries an operand unevaluated.
-/
import PocketScheme.Proofs.Evaluation.Outcome
import PocketScheme.Reading

namespace PocketScheme

/-- A form with a hole in a place that evaluation may come to. -/
inductive Context where
  /-- The hole itself. -/
  | hole
  /-- Among the operands of a call. -/
  | inOperand (name : String) (ordinary : SpecialForm.ofName? name = none)
      (before : List Value) (inner : Context) (after : List Value)
  /-- In the condition of a choice. -/
  | inCondition (inner : Context) (thenForm elseForm : Value)
  /-- In the first branch of a choice. -/
  | inThen (condition : Value) (inner : Context) (elseForm : Value)
  /-- In the second branch of a choice. -/
  | inElse (condition thenForm : Value) (inner : Context)

namespace Context

/-- The form with another form in the hole. -/
def fill : Context → Value → Value
  | hole, form => form
  | inOperand name _ before inner after, form =>
    .list (.atom name :: (before ++ inner.fill form :: after))
  | inCondition inner thenForm elseForm, form => choice (inner.fill form) thenForm elseForm
  | inThen condition inner elseForm, form => choice condition (inner.fill form) elseForm
  | inElse condition thenForm inner, form => choice condition thenForm (inner.fill form)

end Context

/-- The outcome of a call depends on each operand by its outcome. -/
theorem evaluate_call_congr {name : String} (h : SpecialForm.ofName? name = none)
    (before after : List Value) {form form' : Value} (heq : evaluate form = evaluate form') :
    evaluate (.list (.atom name :: (before ++ form :: after))) =
      evaluate (.list (.atom name :: (before ++ form' :: after))) := by
  rw [evaluate_call h, evaluate_call h, List.mapM_append, List.mapM_append, List.mapM_cons,
    List.mapM_cons, heq]

/-- The outcome of a choice depends on each operand by its outcome. -/
theorem evaluate_choice_congr {condition condition' thenForm thenForm' elseForm elseForm' : Value}
    (hcondition : evaluate condition = evaluate condition')
    (hthen : evaluate thenForm = evaluate thenForm')
    (helse : evaluate elseForm = evaluate elseForm') :
    evaluate (choice condition thenForm elseForm) =
      evaluate (choice condition' thenForm' elseForm') := by
  rw [evaluate_choice, evaluate_choice, hcondition, hthen, helse]

/-- A second branch that is not taken does not matter. -/
theorem evaluate_choice_elseForm {condition : Value}
    (h : evaluate condition ≠ .ok (.bool false)) (thenForm elseForm elseForm' : Value) :
    evaluate (choice condition thenForm elseForm) =
      evaluate (choice condition thenForm elseForm') := by
  rw [evaluate_choice, evaluate_choice]
  cases hcondition : evaluate condition with
  | error failure => rfl
  | ok v =>
      have hv : v ≠ .bool false := by
        rintro rfl
        exact h hcondition
      show (if v = .bool false then _ else _) = if v = .bool false then _ else _
      rw [if_neg hv, if_neg hv]

/-- A first branch that is not taken does not matter. -/
theorem evaluate_choice_thenForm {condition : Value}
    (h : ∀ v, evaluate condition = .ok v → v = .bool false)
    (thenForm thenForm' elseForm : Value) :
    evaluate (choice condition thenForm elseForm) =
      evaluate (choice condition thenForm' elseForm) := by
  rw [evaluate_choice, evaluate_choice]
  cases hcondition : evaluate condition with
  | error failure => rfl
  | ok v =>
      obtain rfl := h v hcondition
      rfl

/-- Forms with one outcome have one outcome in every context. -/
theorem evaluate_fill (context : Context) {form form' : Value}
    (h : evaluate form = evaluate form') :
    evaluate (context.fill form) = evaluate (context.fill form') := by
  induction context with
  | hole => exact h
  | inOperand name ordinary before inner after ih =>
      exact evaluate_call_congr ordinary before after ih
  | inCondition inner thenForm elseForm ih => exact evaluate_choice_congr ih rfl rfl
  | inThen condition inner elseForm ih => exact evaluate_choice_congr rfl ih rfl
  | inElse condition thenForm inner ih => exact evaluate_choice_congr rfl rfl ih

/-- Evaluation is a congruence: in every context, forms with one outcome
can stand for each other, a form can be replaced by its value quoted,
and a branch that is not taken can be replaced by anything. -/
theorem evaluate_congruence (context : Context) :
    (∀ form form', evaluate form = evaluate form' →
        evaluate (context.fill form) = evaluate (context.fill form'))
      ∧ (∀ form v, evaluate form = .ok v →
          evaluate (context.fill form) = evaluate (context.fill (Reading.quote v)))
      ∧ (∀ condition thenForm elseForm elseForm', evaluate condition ≠ .ok (.bool false) →
          evaluate (context.fill (choice condition thenForm elseForm)) =
            evaluate (context.fill (choice condition thenForm elseForm')))
      ∧ ∀ condition thenForm thenForm' elseForm,
          (∀ v, evaluate condition = .ok v → v = .bool false) →
          evaluate (context.fill (choice condition thenForm elseForm)) =
            evaluate (context.fill (choice condition thenForm' elseForm)) := by
  refine ⟨fun form form' h => evaluate_fill context h, fun form v h => ?_,
    fun condition thenForm elseForm elseForm' h => ?_,
    fun condition thenForm thenForm' elseForm h => ?_⟩
  · have hquote : evaluate (Reading.quote v) = .ok v := evaluate_quote v
    exact evaluate_fill context (h.trans hquote.symm)
  · exact evaluate_fill context (evaluate_choice_elseForm h thenForm elseForm elseForm')
  · exact evaluate_fill context (evaluate_choice_thenForm h thenForm thenForm' elseForm)

/-- In a sum, a product can be replaced by its value quoted, and the
branch of a choice that is not taken by a form without a value. -/
theorem evaluate_congruence_sum :
    evaluate (.list [.atom "*", .int 2, .int 3]) = .ok (.int 6)
      ∧ evaluate (.list [.atom "+", .int 1, .list [.atom "*", .int 2, .int 3]]) =
          evaluate (.list [.atom "+", .int 1, .list [.atom "quote", .int 6]])
      ∧ evaluate (.list [.atom "+", .int 1, choice (.bool true) (.int 2) (.int 3)]) =
          evaluate (.list [.atom "+", .int 1, choice (.bool true) (.int 2) (.list [])]) := by
  have hproduct : evaluate (.list [.atom "*", .int 2, .int 3]) = .ok (.int 6) := by rfl
  have htrue : evaluate (.bool true) ≠ .ok (.bool false) := by simp
  obtain ⟨-, hquoted, helse, -⟩ :=
    evaluate_congruence (.inOperand "+" (by decide) [.int 1] .hole [])
  exact ⟨hproduct, hquoted _ _ hproduct, helse _ _ _ _ htrue⟩

end PocketScheme
