/-
The rules of evaluation, told apart by the form.

A form is a literal, a quotation, a choice or a call, or it is refused as
it stands, without a look at its parts: no rule is for it, or it is a
special form with too few or too many operands. What `Outcome.lean` says
rule by rule is said of every form in this way, and what passes from the
parts that a rule evaluates to the form holds of all forms
(`form_induction`). What a quotation quotes is no such part, and neither
are the operands of a special form that is refused.
-/
import PocketScheme.Proofs.Evaluation.Outcome
import PocketScheme.Reading

namespace PocketScheme

-- ============================================================ the forms

/-- The forms that are their own values. -/
def IsLiteral : Value → Prop
  | .str _ | .int _ | .bool _ => True
  | _ => False

/-- The forms that no rule of evaluation is for: a bare name, a dotted
list, and a list without a name in front. -/
inductive NoRule : Value → Prop where
  | atom (name : String) : NoRule (.atom name)
  | empty : NoRule (.list [])
  | head {first : Value} {more : List Value} :
      (∀ name, first ≠ .atom name) → NoRule (.list (first :: more))
  | dotted (first : Value) (more : List Value) (tail : Value) : NoRule (.dotted first more tail)

/-- The number of operands that a special form takes. -/
def SpecialForm.arity : SpecialForm → Nat
  | quote => 1
  | choice => 3

/-- The forms that evaluation refuses as they stand, and what it says of
them. -/
inductive Refused : Value → String → Prop where
  | noRule {form : Value} : NoRule form → Refused form "Unrecognized special form"
  | malformed (special : SpecialForm) {operands : List Value} :
      operands.length ≠ special.arity →
      Refused (.list (.atom special.name :: operands)) special.demand

namespace SpecialForm

@[simp] theorem ofName?_name (special : SpecialForm) : ofName? special.name = some special := by
  cases special <;> decide

theorem name_of_ofName? {name : String} {special : SpecialForm}
    (h : ofName? name = some special) : special.name = name := by
  simpa using List.find?_some h

end SpecialForm

-- ==================================================== what they evaluate to

theorem evaluate_literal {v : Value} (h : IsLiteral v) : evaluate v = .ok v := by
  cases v with
  | str text => exact evaluate_str text
  | int n => exact evaluate_int n
  | bool b => exact evaluate_bool b
  | _ => cases h

/-- A quotation evaluates to what it quotes. -/
theorem evaluate_quotation (form : Value) : evaluate (Reading.quote form) = .ok form :=
  evaluate_quote form

theorem evaluateTraced_noRule {form : Value} (h : NoRule form) :
    evaluateTraced form = .fail (.badForm "Unrecognized special form" form) := by
  rw [evaluateTraced.eq_def]
  cases h with
  | @head first more hfirst =>
      cases first with
      | atom name => exact absurd rfl (hfirst name)
      | _ => rfl
  | _ => rfl

/-- What is refused as it stands is refused without an application. -/
theorem evaluateTraced_refused {form : Value} {message : String} (h : Refused form message) :
    evaluateTraced form = .fail (.badForm message form) := by
  cases h with
  | noRule h => exact evaluateTraced_noRule h
  | @malformed special operands hlength =>
      rw [evaluateTraced.eq_def]
      cases special with
      | quote =>
          simp only [SpecialForm.ofName?_name]
          split
          · exact absurd rfl hlength
          · rfl
      | choice =>
          simp only [SpecialForm.ofName?_name]
          split
          · exact absurd rfl hlength
          · rfl

theorem evaluate_refused {form : Value} {message : String} (h : Refused form message) :
    evaluate form = .error (.badForm message form) := by
  rw [evaluate, evaluateTraced_refused h, Traced.outcome_fail]

-- ========================================================== form by form

/-- Induction on forms along the rules of evaluation. -/
theorem form_induction {motive : Value → Prop}
    (literal : ∀ v, IsLiteral v → motive v)
    (quotation : ∀ form, motive (Reading.quote form))
    (choice : ∀ condition thenForm elseForm, motive condition → motive thenForm →
      motive elseForm → motive (choice condition thenForm elseForm))
    (call : ∀ name operands, SpecialForm.ofName? name = none →
      (∀ operand ∈ operands, motive operand) → motive (.list (.atom name :: operands)))
    (refused : ∀ form message, Refused form message → motive form)
    (form : Value) : motive form := by
  match form with
  | .str _ | .int _ | .bool _ => exact literal _ trivial
  | .atom name => exact refused _ _ (.noRule (.atom name))
  | .dotted first more tail => exact refused _ _ (.noRule (.dotted first more tail))
  | .list [] => exact refused _ _ (.noRule .empty)
  | .list (first :: operands) =>
      have hoperand (operand : Value) (hmem : operand ∈ operands) : motive operand :=
        form_induction literal quotation choice call refused operand
      by_cases hfirst : ∃ name, first = .atom name
      · obtain ⟨name, rfl⟩ := hfirst
        cases hname : SpecialForm.ofName? name with
        | none => exact call name operands hname hoperand
        | some special =>
            obtain rfl := SpecialForm.name_of_ofName? hname
            by_cases hlength : operands.length = special.arity
            · cases special with
              | quote =>
                  obtain ⟨form, rfl⟩ := List.length_eq_one_iff.1 hlength
                  exact quotation form
              | choice =>
                  match operands, hlength with
                  | [condition, thenForm, elseForm], _ =>
                      exact choice condition thenForm elseForm (hoperand _ (by simp))
                        (hoperand _ (by simp)) (hoperand _ (by simp))
            · exact refused _ _ (.malformed special hlength)
      · exact refused _ _ (.noRule (.head fun name hname => hfirst ⟨name, hname⟩))
termination_by sizeOf form
decreasing_by
  have := List.sizeOf_lt_of_mem hmem
  simp only [Value.list.sizeOf_spec, List.cons.sizeOf_spec]
  omega

end PocketScheme
