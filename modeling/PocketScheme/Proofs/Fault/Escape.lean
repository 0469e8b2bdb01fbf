/-
What can come out of the program: values, failures of six categories, and
no fault.

The whole of reading and evaluating is put together of its bare parts
here (`Bare.evaluateText`), up to the text that answers a source, which
is a value's or a failure's and of which a fault would leave none
(`Bare.answer`).

The failures have eight categories. Of two there is no failure at all:
no name stands for a value that could be missing, and no failure is of
no more special kind than that. Which of the others a form can have is
seen at its origin, which is refused as it stands or an application that
is rejected (`category_mem_of_evaluate`); a text can be unreadable
besides. Each of them is there (`exists_form_of_category`,
`exists_text_of_category`), so no category stands in the lists for
nothing.
-/
import PocketScheme.Proofs.Evaluation.Origin
import PocketScheme.Proofs.Evaluation.Rejection
import PocketScheme.Proofs.Fault.Evaluation
import PocketScheme.Proofs.Fault.Reading
import PocketScheme.Proofs.Reading.RoundTrip
import PocketScheme.Session

namespace PocketScheme

-- ============================================================ categories

/-- What a failure is, whatever it is about. -/
inductive Category where
  | arity
  | mismatch
  | unreadable
  | badForm
  | unknownProcedure
  | unboundVariable
  | generic
  | divisionByZero
  deriving DecidableEq, Repr

/-- The category of a failure. -/
def Failure.category : Failure → Category
  | arity _ _ => .arity
  | mismatch _ _ => .mismatch
  | unreadable _ _ => .unreadable
  | badForm _ _ => .badForm
  | unknownProcedure _ _ => .unknownProcedure
  | unboundVariable _ _ => .unboundVariable
  | generic _ => .generic
  | divisionByZero _ _ => .divisionByZero

namespace Category

/-- The categories of the failures of forms. -/
def ofForms : List Category := [badForm, unknownProcedure, arity, mismatch, divisionByZero]

/-- The categories of the failures of texts. -/
def ofTexts : List Category := unreadable :: ofForms

end Category

theorem Rejection.category_mem {name : String} {arguments : List Value} {failure : Failure}
    (h : Rejection name arguments failure) : failure.category ∈ Category.ofForms := by
  cases h with
  | operand _ _ _ hblames =>
      obtain ⟨-, v, -, -, -, -, rfl⟩ := hblames
      simp [Failure.category, Category.ofForms]
  | unknown | count | zeroDivisor => simp [Failure.category, Category.ofForms]

theorem category_mem_of_evaluate {form : Value} {failure : Failure}
    (h : evaluate form = .error failure) : failure.category ∈ Category.ofForms := by
  obtain ⟨-, part, -, -, horigin⟩ := exists_origin h
  cases horigin with
  | refused => simp [Failure.category, Category.ofForms]
  | call _ _ happly => exact (apply_eq_error_iff.1 happly).category_mem

theorem category_mem_of_evaluateText {code : List Char} {failure : Failure}
    (h : evaluateText code = .error failure) : failure.category ∈ Category.ofTexts := by
  rcases bind_eq_error_iff.1 h with hread | ⟨form, -, hevaluate⟩
  · obtain ⟨-, -, -, -, -, -, -, detail, rfl⟩ := exists_halts_of_read_error hread
    exact List.mem_cons_self
  · exact List.mem_cons_of_mem _ (category_mem_of_evaluate hevaluate)

/-- A form that can be written and fails, for each category of theirs. -/
theorem exists_readable_of_category {category : Category} (h : category ∈ Category.ofForms) :
    ∃ form : Value, form.Readable
      ∧ ∃ failure, evaluate form = .error failure ∧ failure.category = category := by
  cases category with
  | badForm =>
      exact ⟨.atom "x", by decide, .badForm "Unrecognized special form" (.atom "x"), rfl, rfl⟩
  | unknownProcedure =>
      exact ⟨.list [.atom "f"], by decide,
        .unknownProcedure "Unrecognized primitive function args" "f", rfl, rfl⟩
  | arity => exact ⟨.list [.atom "car"], by decide, .arity 1 [], rfl, rfl⟩
  | mismatch =>
      exact ⟨.list [.atom "car", .int 1], by decide, .mismatch "pair" (.int 1), rfl, rfl⟩
  | divisionByZero =>
      exact ⟨.list [.atom "/", .int 1, .int 0], by decide,
        .divisionByZero "/" [.int 1, .int 0], rfl, rfl⟩
  | unreadable | unboundVariable | generic => simp [Category.ofForms] at h

/-- A form that fails, for each category of theirs. -/
theorem exists_form_of_category {category : Category} (h : category ∈ Category.ofForms) :
    ∃ form failure, evaluate form = .error failure ∧ failure.category = category := by
  obtain ⟨form, -, failure, hfails, hcategory⟩ := exists_readable_of_category h
  exact ⟨form, failure, hfails, hcategory⟩

/-- A text that fails, for each category of theirs: no text at all, or
that of a form that fails. -/
theorem exists_text_of_category {category : Category} (h : category ∈ Category.ofTexts) :
    ∃ code failure, evaluateText code = .error failure ∧ failure.category = category := by
  rcases List.mem_cons.1 h with rfl | hform
  · exact ⟨[], .unreadable "unexpected end of input; expecting expression" ⟨1, 1⟩, by cbv, rfl⟩
  · obtain ⟨form, hreadable, failure, hfails, hcategory⟩ := exists_readable_of_category hform
    have hread : read form.render = .ok form :=
      read_eq_ok_iff_spells.2 (spells_render form hreadable)
    exact ⟨form.render, failure, (evaluateText_of_read hread).trans hfails, hcategory⟩

-- ============================================================= the whole

namespace Bare

/-- The value of the one expression that a text is. -/
def evaluateText (code : List Char) : Except Stop Value := do
  let form ← read code
  evaluate form

/-- The text of the value or of the failure; a fault leaves none. -/
def answer (code : List Char) : Except Fault (List Char) :=
  match evaluateText code with
  | .ok v => .ok v.render
  | .error (.failure failure) => .ok failure.render
  | .error (.fault fault) => .error fault

end Bare

theorem bare_evaluateText (code : List Char) :
    Bare.evaluateText code = faultless (evaluateText code) := by
  unfold Bare.evaluateText evaluateText
  rw [faultless_bind, bare_read]
  congr 1
  funext form
  exact bare_evaluate form

theorem bare_answer (code : List Char) :
    Bare.answer code = .ok (Session.report code).answer := by
  rw [Bare.answer, bare_evaluateText, Session.answer_report]
  cases evaluateText code with
  | ok v => rfl
  | error failure => rfl

/-- No fault comes out of a text or of a form. Both have a value or a
failure, the bare computations the same as the program, and there are
failures of exactly these categories; so every text is answered with a
text. -/
theorem no_fault_escapes :
    (∀ code, Bare.evaluateText code = faultless (evaluateText code)
        ∧ ∀ fault, Bare.evaluateText code ≠ .error (.fault fault))
      ∧ (∀ form, Bare.evaluate form = faultless (evaluate form)
        ∧ ∀ fault, Bare.evaluate form ≠ .error (.fault fault))
      ∧ (∀ category, (∃ code failure, Bare.evaluateText code = .error (.failure failure)
            ∧ failure.category = category) ↔ category ∈ Category.ofTexts)
      ∧ (∀ category, (∃ form failure, Bare.evaluate form = .error (.failure failure)
            ∧ failure.category = category) ↔ category ∈ Category.ofForms)
      ∧ ∀ code, Bare.answer code = .ok (Session.report code).answer := by
  refine ⟨fun code => ⟨bare_evaluateText code, fun fault => ?_⟩,
    fun form => ⟨bare_evaluate form, fun fault => ?_⟩, fun category => ⟨?_, fun h => ?_⟩,
    fun category => ⟨?_, fun h => ?_⟩, bare_answer⟩
  · rw [bare_evaluateText]
    exact faultless_ne_fault _ fault
  · rw [bare_evaluate]
    exact faultless_ne_fault _ fault
  · rintro ⟨code, failure, hfails, rfl⟩
    rw [bare_evaluateText, faultless_eq_failure_iff] at hfails
    exact category_mem_of_evaluateText hfails
  · obtain ⟨code, failure, hfails, hcategory⟩ := exists_text_of_category h
    refine ⟨code, failure, ?_, hcategory⟩
    rw [bare_evaluateText, hfails, faultless_error]
  · rintro ⟨form, failure, hfails, rfl⟩
    rw [bare_evaluate, faultless_eq_failure_iff] at hfails
    exact category_mem_of_evaluate hfails
  · obtain ⟨form, failure, hfails, hcategory⟩ := exists_form_of_category h
    refine ⟨form, failure, ?_, hcategory⟩
    rw [bare_evaluate, hfails, faultless_error]

end PocketScheme
