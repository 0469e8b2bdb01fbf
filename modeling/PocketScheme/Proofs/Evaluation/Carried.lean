/-
What failures carry: the values inside them, and where these come from.

A failure of an application carries arguments, or what is inside one of
them; a failure of an evaluation carries a part of the form, or values
that parts of it have. So what holds everywhere in a form and is kept by
the primitives holds everywhere in the failure (`every_of_evaluate_error`),
as it does in the value if there is one.
-/
import PocketScheme.Proofs.Evaluation.Application
import PocketScheme.Proofs.Evaluation.Origin
import PocketScheme.Proofs.Evaluation.Rejection

namespace PocketScheme

open Value (Kept every_list_iff)

/-- The values that a failure carries. -/
def Failure.values : Failure → List Value
  | arity _ found => found
  | mismatch _ found => [found]
  | badForm _ form => [form]
  | divisionByZero _ arguments => arguments
  | unreadable _ _ | unknownProcedure _ _ | unboundVariable _ _ | generic _ => []

variable {p : Value → Prop}

theorem Value.Every.core {v : Value} (h : v.Every p) : v.core.Every p := by
  fun_induction Value.core v with
  | case1 item ih => exact ih ((every_list_iff.1 h).2 item (by simp))
  | case2 v => exact h

theorem Value.Every.found {v : Value} (h : v.Every p) (role : Role) : (role.found v).Every p := by
  cases role with
  | number => exact h.core
  | truth | text | pair => exact h

/-- An application that is rejected carries its arguments, or what is
inside one. -/
theorem Rejection.every_values {name : String} {arguments : List Value} {failure : Failure}
    (h : Rejection name arguments failure) (harguments : ∀ a ∈ arguments, a.Every p) :
    ∀ v ∈ failure.values, v.Every p := by
  cases h with
  | unknown => simp [Failure.values]
  | count | zeroDivisor => exact harguments
  | @operand _ role _ _ _ _ hblames =>
      obtain ⟨before, v, after, rfl, -, -, rfl⟩ := hblames
      intro w hw
      obtain rfl := List.mem_singleton.1 hw
      exact (harguments v (by simp)).found role

/-- What holds everywhere in a form holds so in what is in a place of
it. -/
theorem Context.every_of_fill {context : Context} {form : Value}
    (h : (context.fill form).Every p) : form.Every p := by
  induction context with
  | hole => exact h
  | inOperand name ordinary before inner after ih => exact ih ((every_list_iff.1 h).2 _ (by simp))
  | inCondition inner thenForm elseForm ih => exact ih ((every_list_iff.1 h).2 _ (by simp))
  | inThen condition inner elseForm ih => exact ih ((every_list_iff.1 h).2 _ (by simp))
  | inElse condition thenForm inner ih => exact ih ((every_list_iff.1 h).2 _ (by simp))

/-- The values of operands have what the operands have. -/
theorem every_of_map_evaluate (hp : Kept p) {operands arguments : List Value}
    (h : operands.map evaluate = arguments.map .ok) (hoperands : ∀ v ∈ operands, v.Every p) :
    ∀ a ∈ arguments, a.Every p := by
  intro a ha
  obtain ⟨operand, hmem, hvalue⟩ := (mem_iff_of_mapM_eq_ok (mapM_eq_ok_iff.2 h)).1 ha
  exact evaluate_every hp (hoperands operand hmem) hvalue

/-- An evaluation that fails carries what the form is made of, as one that
has a value does. -/
theorem every_of_evaluate_error (hp : Kept p) {form : Value} {failure : Failure}
    (hform : form.Every p) (h : evaluate form = .error failure) :
    ∀ v ∈ failure.values, v.Every p := by
  obtain ⟨context, part, rfl, -, horigin⟩ := exists_origin h
  have hpart := Context.every_of_fill hform
  cases horigin with
  | refused hrefused =>
      intro v hv
      obtain rfl := List.mem_singleton.1 hv
      exact hpart
  | call hname hoperands happly =>
      have hitems := (every_list_iff.1 hpart).2
      have harguments := every_of_map_evaluate hp hoperands fun v hv => hitems v (.tail _ hv)
      exact (apply_eq_error_iff.1 happly).every_values harguments

end PocketScheme
