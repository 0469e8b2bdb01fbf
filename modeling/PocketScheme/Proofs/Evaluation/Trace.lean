/-
The applications of an evaluation, and what they tell of its outcome.

Evaluation lists an application before it takes place, and nothing takes
place after a failure. So whatever is listed has a value, but for the
last application where it is the failure. Which failures these are is a
matter of category: a wrong number of arguments, an argument of a wrong
kind and a division by zero come from an application that is listed; a
form without a rule and a name of no primitive are refused without one.

`Truthful` says this of any computation with a list of applications. It
holds of one application (`Truthful.call`) and of one computation after
another (`Truthful.bind`), and from there of every form, along the rules
of evaluation (`truthful_evaluateTraced`).
-/
import PocketScheme.Proofs.Evaluation.Rule
import PocketScheme.Proofs.Fault.Escape

namespace PocketScheme

-- ===================================================== single applications

/-- Whether an application has a value. -/
def Application.Succeeds (application : Application) : Prop :=
  ∃ v, apply application.name application.arguments = .ok v

namespace Category

/-- The categories of the failures of primitives. -/
def ofPrimitives : List Category := [arity, mismatch, divisionByZero]

/-- The categories of the failures that no primitive is applied for. -/
def ofRefusals : List Category := [badForm, unknownProcedure]

end Category

/-- What a primitive rejects is of a category of theirs. -/
theorem Rejection.category_mem_ofPrimitives {p : Primitive} {arguments : List Value}
    {failure : Failure} (h : Rejection p.name arguments failure) :
    failure.category ∈ Category.ofPrimitives := by
  cases h with
  | unknown hunknown => exact absurd rfl (hunknown p)
  | operand _ _ _ hblames =>
      obtain ⟨-, v, -, -, -, -, rfl⟩ := hblames
      simp [Failure.category, Category.ofPrimitives]
  | count | zeroDivisor => simp [Failure.category, Category.ofPrimitives]

-- ======================================================= lists that are true

namespace Traced

variable {α β : Type}

/-- A computation whose list of applications tells how it came to its
outcome. -/
inductive Truthful : Traced α → Prop where
  /-- All that was applied has a value, and so has the computation. -/
  | value {applications : List Application} {a : α} :
      (∀ application ∈ applications, application.Succeeds) → Truthful ⟨applications, .ok a⟩
  /-- All that was applied has a value, and something else was refused. -/
  | refusal {applications : List Application} {failure : Failure} :
      (∀ application ∈ applications, application.Succeeds) →
      failure.category ∈ Category.ofRefusals → Truthful ⟨applications, .error failure⟩
  /-- The last application fails, and is the failure. -/
  | rejection {before : List Application} {last : Application} {failure : Failure} :
      (∀ application ∈ before, application.Succeeds) →
      apply last.name last.arguments = .error failure →
      failure.category ∈ Category.ofPrimitives → Truthful ⟨before ++ [last], .error failure⟩

namespace Truthful

theorem pure (a : α) : (Pure.pure a : Traced α).Truthful := .value (by simp)

theorem badForm (message : String) (form : Value) :
    (fail (.badForm message form) : Traced α).Truthful :=
  .refusal (by simp) (by simp [Failure.category, Category.ofRefusals])

/-- An application is listed if its name is a primitive's, whether it has
a value or not. -/
theorem call (name : String) (arguments : List Value) : (call name arguments).Truthful := by
  cases hname : Primitive.ofName? name with
  | none =>
      have happly : apply name arguments =
          .error (.unknownProcedure "Unrecognized primitive function args" name) := by
        rw [apply, hname]
      rw [Traced.call, hname, happly]
      exact .refusal (by simp) (by simp [Failure.category, Category.ofRefusals])
  | some p =>
      obtain rfl := Primitive.name_of_ofName? hname
      rw [Traced.call, hname]
      cases happly : apply p.name arguments with
      | ok v =>
          refine .value fun application hmem => ?_
          obtain rfl := List.mem_singleton.1 hmem
          exact ⟨v, happly⟩
      | error failure =>
          have hrejection : Rejection p.name arguments failure := apply_eq_error_iff.1 happly
          have hlast : Truthful (⟨[] ++ [⟨p.name, arguments⟩], .error failure⟩ : Traced Value) :=
            .rejection (by simp) happly hrejection.category_mem_ofPrimitives
          exact hlast

/-- What comes after a computation that has a value adds to its list. -/
theorem bind {first : Traced α} {next : α → Traced β} (hfirst : first.Truthful)
    (hnext : ∀ a, first.outcome = .ok a → (next a).Truthful) : (first >>= next).Truthful := by
  cases hfirst with
  | refusal hall hcategory => exact .refusal hall hcategory
  | rejection hbefore hlast hcategory => exact .rejection hbefore hlast hcategory
  | @value applications a hall =>
      have hmore := hnext a rfl
      show Truthful ⟨applications ++ (next a).applications, (next a).outcome⟩
      have hboth {more : List Application} (h : ∀ application ∈ more, application.Succeeds) :
          ∀ application ∈ applications ++ more, application.Succeeds :=
        List.forall_mem_append.2 ⟨hall, h⟩
      cases hafter : next a with
      | mk more outcome =>
          rw [hafter] at hmore
          cases hmore with
          | value hsucceed => exact .value (hboth hsucceed)
          | refusal hsucceed hcategory => exact .refusal (hboth hsucceed) hcategory
          | @rejection before last failure hbefore hlast hcategory =>
              show Truthful ⟨applications ++ (before ++ [last]), .error failure⟩
              rw [← List.append_assoc]
              exact .rejection (hboth hbefore) hlast hcategory

variable {traced : Traced α}

theorem of_ok (h : traced.Truthful) {a : α} (houtcome : traced.outcome = .ok a) :
    ∀ application ∈ traced.applications, application.Succeeds := by
  cases h with
  | value hall => exact hall
  | refusal | rejection => cases houtcome

theorem of_error (h : traced.Truthful) {failure : Failure}
    (houtcome : traced.outcome = .error failure) :
    (failure.category ∈ Category.ofRefusals
        ∧ ∀ application ∈ traced.applications, application.Succeeds)
      ∨ failure.category ∈ Category.ofPrimitives
        ∧ ∃ before last, traced.applications = before ++ [last]
          ∧ (∀ application ∈ before, application.Succeeds)
          ∧ apply last.name last.arguments = .error failure := by
  cases h with
  | value => cases houtcome
  | refusal hall hcategory =>
      cases houtcome
      exact .inl ⟨hcategory, hall⟩
  | @rejection before last failure hbefore hlast hcategory =>
      cases houtcome
      exact .inr ⟨hcategory, before, last, rfl, hbefore, hlast⟩

end Truthful

end Traced

-- ========================================================= form by form

theorem evaluateTraced_literal {v : Value} (h : IsLiteral v) : evaluateTraced v = pure v := by
  cases v with
  | str _ | int _ | bool _ => rw [evaluateTraced]
  | _ => cases h

/-- Of what is quoted nothing is applied. -/
theorem evaluateTraced_quotation (form : Value) :
    evaluateTraced (Reading.quote form) = pure form := by
  rw [Reading.quote, evaluateTraced]
  rfl

/-- Of the branches of a choice, one is evaluated. -/
theorem evaluateTraced_choice (condition thenForm elseForm : Value) :
    evaluateTraced (choice condition thenForm elseForm) =
      evaluateTraced condition >>= fun v =>
        if v = .bool false then evaluateTraced elseForm else evaluateTraced thenForm := by
  have hname : SpecialForm.ofName? "if" = some .choice := by decide
  simp only [choice, evaluateTraced, hname]

theorem evaluateTraced_call {name : String} (h : SpecialForm.ofName? name = none)
    (operands : List Value) :
    evaluateTraced (.list (.atom name :: operands)) =
      evaluateAllTraced operands >>= Traced.call name := by
  rw [evaluateTraced.eq_def]
  simp only [h]

theorem truthful_evaluateAllTraced {forms : List Value}
    (h : ∀ form ∈ forms, (evaluateTraced form).Truthful) :
    (evaluateAllTraced forms).Truthful := by
  induction forms with
  | nil =>
      rw [evaluateAllTraced]
      exact .pure []
  | cons form forms ih =>
      obtain ⟨hform, hforms⟩ := List.forall_mem_cons.1 h
      rw [evaluateAllTraced]
      exact hform.bind fun v _ => (ih hforms).bind fun vs _ => .pure (v :: vs)

/-- The list of applications of an evaluation is true, for every form. -/
theorem truthful_evaluateTraced (form : Value) : (evaluateTraced form).Truthful := by
  induction form using form_induction with
  | literal v h =>
      rw [evaluateTraced_literal h]
      exact .pure v
  | quotation form =>
      rw [evaluateTraced_quotation]
      exact .pure form
  | choice condition thenForm elseForm hcondition hthen helse =>
      rw [evaluateTraced_choice]
      refine hcondition.bind fun v _ => ?_
      by_cases hv : v = .bool false
      · rw [if_pos hv]
        exact helse
      · rw [if_neg hv]
        exact hthen
  | call name operands hname hoperands =>
      rw [evaluateTraced_call hname]
      exact (truthful_evaluateAllTraced hoperands).bind fun arguments _ => .call name arguments
  | refused form message h =>
      rw [evaluateTraced_refused h]
      exact .badForm message form

/-- Primitives are not special forms. -/
theorem SpecialForm.ofName?_primitive (p : Primitive) : ofName? p.name = none := by
  cases p with
  | arithmetic op => cases op <;> decide
  | compareNumbers relation => cases relation <;> decide
  | connect connective => cases connective <;> decide
  | compareTexts relation => cases relation <;> decide
  | _ => decide

/-- The last application of a call whose operands have values is that of
the call. -/
theorem applications_call {p : Primitive} {operands arguments : List Value}
    (h : operands.map evaluate = arguments.map .ok) :
    (evaluateTraced (.list (.atom p.name :: operands))).applications =
      (evaluateAllTraced operands).applications ++ [⟨p.name, arguments⟩] := by
  have houtcome : (evaluateAllTraced operands).outcome = .ok arguments := by
    rw [outcome_evaluateAllTraced, mapM_eq_ok_iff.2 h]
  rw [evaluateTraced_call (SpecialForm.ofName?_primitive p)]
  cases hoperands : evaluateAllTraced operands with
  | mk applications outcome =>
      obtain rfl : outcome = .ok arguments := by rwa [hoperands] at houtcome
      show applications ++ (Traced.call p.name arguments).applications = _
      rw [Traced.call, Primitive.ofName?_name]

end PocketScheme
