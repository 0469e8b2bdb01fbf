/-
Where a failure starts: the form that evaluation comes to first of all
those that fail by themselves.

# Places that are reached

A context (`Context`) marks a place that evaluation may come to. It does
come there if everything in front of it has a value: the operands to the
left, the condition of a choice, and of the two branches the one which
that condition selects. `Context.Reached` says this of every step on the
way to the hole, and nothing in it speaks of what the hole holds.

# Origins

A form fails by itself if it is refused as it stands, or if it is a call
whose operands all have values and whose application fails on these
(`Origin`). An evaluation that fails has such a form in a place that it
reaches (`exists_origin`, by induction on the form), and a form that
fails in a place that is reached makes the whole fail in the same way
(`Context.Reached.evaluate_fill`, by induction on the context). So the
failure of the whole is the failure of the origin and carries no trace
of what is around it.
-/
import PocketScheme.Proofs.Computation
import PocketScheme.Proofs.Evaluation.Context
import PocketScheme.Proofs.Evaluation.Rule

namespace PocketScheme

-- ==================================================== places and origins

/-- Whether evaluation comes to the hole, whatever the hole holds. -/
def Context.Reached : Context → Prop
  | hole => True
  | inOperand _ _ before inner _ => (∀ form ∈ before, ∃ v, evaluate form = .ok v) ∧ inner.Reached
  | inCondition inner _ _ => inner.Reached
  | inThen condition inner _ => (∃ v, evaluate condition = .ok v ∧ v ≠ .bool false) ∧ inner.Reached
  | inElse condition _ inner => evaluate condition = .ok (.bool false) ∧ inner.Reached

/-- The forms that fail by themselves, with their failures. -/
inductive Origin : Value → Failure → Prop where
  | refused {form : Value} {message : String} :
      Refused form message → Origin form (.badForm message form)
  | call {name : String} {operands arguments : List Value} {failure : Failure} :
      SpecialForm.ofName? name = none → operands.map evaluate = arguments.map .ok →
      apply name arguments = .error failure → Origin (.list (.atom name :: operands)) failure

theorem Origin.evaluate_eq {form : Value} {failure : Failure} (h : Origin form failure) :
    evaluate form = .error failure := by
  cases h with
  | refused h => exact evaluate_refused h
  | call hname hoperands happly =>
      rw [evaluate_call hname, mapM_eq_ok_iff.2 hoperands]
      exact happly

-- ============================================================= on the way

/-- A failure among the operands of a call is the call's, if the operands
before it have values. -/
theorem evaluate_call_of_error {name : String} (hname : SpecialForm.ofName? name = none)
    {before after : List Value} {form : Value} {failure : Failure}
    (hbefore : ∀ form ∈ before, ∃ v, evaluate form = .ok v) (h : evaluate form = .error failure) :
    evaluate (.list (.atom name :: (before ++ form :: after))) = .error failure := by
  rw [evaluate_call hname, bind_eq_error_iff, mapM_eq_error_iff]
  exact .inl ⟨before, form, after, rfl, hbefore, h⟩

theorem evaluate_choice_of_error {condition : Value} {failure : Failure}
    (h : evaluate condition = .error failure) (thenForm elseForm : Value) :
    evaluate (choice condition thenForm elseForm) = .error failure := by
  rw [evaluate_choice, h]
  rfl

theorem evaluate_choice_of_ne {condition v : Value} (h : evaluate condition = .ok v)
    (hv : v ≠ .bool false) (thenForm elseForm : Value) :
    evaluate (choice condition thenForm elseForm) = evaluate thenForm := by
  rw [evaluate_choice, h]
  exact if_neg hv

theorem evaluate_choice_of_false {condition : Value} (h : evaluate condition = .ok (.bool false))
    (thenForm elseForm : Value) :
    evaluate (choice condition thenForm elseForm) = evaluate elseForm := by
  rw [evaluate_choice, h]
  rfl

/-- A failure travels unchanged from a place that is reached. -/
theorem Context.Reached.evaluate_fill {context : Context} (hreached : context.Reached)
    {form : Value} {failure : Failure} (h : evaluate form = .error failure) :
    evaluate (context.fill form) = .error failure := by
  induction context with
  | hole => exact h
  | inOperand name ordinary before inner after ih =>
      exact evaluate_call_of_error ordinary hreached.1 (ih hreached.2)
  | inCondition inner thenForm elseForm ih =>
      exact evaluate_choice_of_error (ih hreached) thenForm elseForm
  | inThen condition inner elseForm ih =>
      obtain ⟨⟨v, hcondition, hv⟩, hinner⟩ := hreached
      rw [Context.fill, evaluate_choice_of_ne hcondition hv]
      exact ih hinner
  | inElse condition thenForm inner ih =>
      obtain ⟨hcondition, hinner⟩ := hreached
      rw [Context.fill, evaluate_choice_of_false hcondition]
      exact ih hinner

-- ============================================================== the origin

/-- A failure has an origin in a place that evaluation reaches. -/
theorem exists_origin {form : Value} {failure : Failure} (h : evaluate form = .error failure) :
    ∃ (context : Context) (part : Value),
      context.fill part = form ∧ context.Reached ∧ Origin part failure := by
  induction form using form_induction with
  | literal v hv =>
      rw [evaluate_literal hv] at h
      cases h
  | quotation form =>
      rw [evaluate_quotation] at h
      cases h
  | choice condition thenForm elseForm hcondition hthen helse =>
      cases hv : evaluate condition with
      | error failure' =>
          rw [evaluate_choice_of_error hv] at h
          obtain ⟨context, part, rfl, hreached, horigin⟩ := hcondition (hv.trans h)
          exact ⟨.inCondition context thenForm elseForm, part, rfl, hreached, horigin⟩
      | ok v =>
          by_cases hfalse : v = .bool false
          · subst hfalse
            rw [evaluate_choice_of_false hv] at h
            obtain ⟨context, part, rfl, hreached, horigin⟩ := helse h
            exact ⟨.inElse condition thenForm context, part, rfl, ⟨hv, hreached⟩, horigin⟩
          · rw [evaluate_choice_of_ne hv hfalse] at h
            obtain ⟨context, part, rfl, hreached, horigin⟩ := hthen h
            exact ⟨.inThen condition context elseForm, part, rfl,
              ⟨⟨v, hv, hfalse⟩, hreached⟩, horigin⟩
  | call name operands hname hoperand =>
      rw [evaluate_call hname, bind_eq_error_iff] at h
      rcases h with hoperands | ⟨arguments, hoperands, happly⟩
      · obtain ⟨before, operand, after, rfl, hbefore, hfails⟩ := mapM_eq_error_iff.1 hoperands
        obtain ⟨context, part, rfl, hreached, horigin⟩ := hoperand operand (by simp) hfails
        exact ⟨.inOperand name hname before context after, part, rfl, ⟨hbefore, hreached⟩,
          horigin⟩
      · exact ⟨.hole, _, rfl, trivial, .call hname (mapM_eq_ok_iff.1 hoperands) happly⟩
  | refused form message hrefused =>
      rw [evaluate_refused hrefused] at h
      cases h
      exact ⟨.hole, form, rfl, trivial, .refused hrefused⟩

/-- The first failure wins. An evaluation that fails does so with the
failure of an origin that it reaches, which fails in the same way alone;
an origin that is reached makes the evaluation fail, with its failure;
and without one there is a value. -/
theorem evaluate_fails_at_origin (form : Value) :
    (∀ failure, evaluate form = .error failure →
        ∃ (context : Context) (part : Value), context.fill part = form ∧ context.Reached
          ∧ Origin part failure ∧ evaluate part = .error failure)
      ∧ (∀ (context : Context) part failure, context.fill part = form → context.Reached →
          Origin part failure → evaluate form = .error failure)
      ∧ ((¬∃ (context : Context) (part : Value) (failure : Failure),
            context.fill part = form ∧ context.Reached ∧ Origin part failure) →
          ∃ v, evaluate form = .ok v) := by
  refine ⟨fun failure h => ?_, fun context part failure hfill hreached horigin => ?_,
    fun hnone => ?_⟩
  · obtain ⟨context, part, hfill, hreached, horigin⟩ := exists_origin h
    exact ⟨context, part, hfill, hreached, horigin, horigin.evaluate_eq⟩
  · rw [← hfill]
    exact hreached.evaluate_fill horigin.evaluate_eq
  · cases h : evaluate form with
    | ok v => exact ⟨v, rfl⟩
    | error failure =>
        obtain ⟨context, part, hfill, hreached, horigin⟩ := exists_origin h
        exact absurd ⟨context, part, failure, hfill, hreached, horigin⟩ hnone

/-- Of a bare name in a branch that is not taken, a call that fails and
an empty list after it, the call is the origin. -/
theorem evaluate_fails_at_origin_operand :
    evaluate (.list [.atom "+", choice (.bool true) (.int 1) (.atom "x"),
        .list [.atom "car", .int 5], .list []]) = .error (.mismatch "pair" (.int 5))
      ∧ ∃ (context : Context) (part : Value),
          context.fill part = .list [.atom "+", choice (.bool true) (.int 1) (.atom "x"),
            .list [.atom "car", .int 5], .list []]
          ∧ context.Reached ∧ Origin part (.mismatch "pair" (.int 5))
          ∧ evaluate part = .error (.mismatch "pair" (.int 5)) := by
  have hfails : evaluate (.list [.atom "+", choice (.bool true) (.int 1) (.atom "x"),
      .list [.atom "car", .int 5], .list []]) = .error (.mismatch "pair" (.int 5)) := by rfl
  exact ⟨hfails, (evaluate_fails_at_origin _).1 _ hfails⟩

end PocketScheme
