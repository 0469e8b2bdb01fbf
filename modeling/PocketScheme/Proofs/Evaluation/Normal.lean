/-
Evaluation keeps values normal.

That no dotted list has a list for its tail is a property that the
primitives keep (`kept_straight`), so the results of applications and
evaluations have it, and the values in their failures. It is enough that
the data of the program are normal (`IsDatum`); then so is all that is
computed on the way to its outcome (`Computes`), and a list that is met
in the course of it is met in one spelling.
-/
import PocketScheme.Proofs.Evaluation.Carried
import PocketScheme.Proofs.Primitive.Pair
import PocketScheme.Proofs.Value.Normal

namespace PocketScheme

open Value (kept_straight)

/-- What a form holds as data in one place, it holds as data. -/
theorem IsDatum.fill {datum form : Value} (h : IsDatum datum form) (context : Context) :
    IsDatum datum (context.fill form) := by
  induction context with
  | hole => exact h
  | inOperand name ordinary before inner after ih => exact .inOperand ordinary (by simp) ih
  | inCondition inner thenForm elseForm ih => exact .inCondition ih
  | inThen condition inner elseForm ih => exact .inThen ih
  | inElse condition thenForm inner ih => exact .inElse ih

/-- Whether a value is computed in the course of an evaluation: it is
that of a form that the evaluation comes to. -/
def Computes (form v : Value) : Prop :=
  ∃ (context : Context) (part : Value), context.fill part = form ∧ context.Reached
    ∧ evaluate part = .ok v

/-- From normal data only normal values are computed. -/
theorem Computes.normal {form v : Value} (h : Computes form v)
    (hdata : ∀ datum, IsDatum datum form → datum.Normal) : v.Normal := by
  obtain ⟨context, part, rfl, -, hvalue⟩ := h
  exact evaluate_every_of_data kept_straight (fun datum hdatum => hdata datum (hdatum.fill context))
    hvalue

/-- Normal arguments give a normal value, or a failure that carries
normal values. -/
theorem apply_normal {arguments : List Value} (h : ∀ a ∈ arguments, a.Normal) (name : String) :
    (∃ v, apply name arguments = .ok v ∧ v.Normal)
      ∨ ∃ failure, apply name arguments = .error failure ∧ ∀ v ∈ failure.values, v.Normal := by
  cases happly : apply name arguments with
  | ok v => exact .inl ⟨v, rfl, apply_every kept_straight h happly⟩
  | error failure =>
      exact .inr ⟨failure, rfl, (apply_eq_error_iff.1 happly).every_values h⟩

/-- The parts of a normal value make it again. -/
theorem cons_of_normal {p front : Value} (h : p.Normal)
    (hcar : Primitive.car.apply [p] = .ok front) :
    ∃ rest, Primitive.cdr.apply [p] = .ok rest ∧ Primitive.cons.apply [front, rest] = .ok p := by
  obtain ⟨rest, hcdr⟩ := (coerces_rest?.ok_iff p).2 ((coerces_front?.ok_iff p).1 ⟨front, hcar⟩)
  refine ⟨rest, hcdr, congrArg Except.ok ?_⟩
  exact Value.cons_eq_of_normal h (part_eq_ok_iff.1 hcar) (part_eq_ok_iff.1 hcdr)

/-- Normal forms have normal values, or fail with failures that carry
normal values, and so do applications to normal arguments. If only the
data of a form are normal, the values computed in the course of its
evaluation are spelled in one way: any two of them, or of their parts,
that are made of the same pairs are equal, and what has a front is made
again of that and its rest. -/
theorem evaluation_keeps_normal :
    (∀ form v, form.Normal → evaluate form = .ok v → v.Normal)
      ∧ (∀ form failure, form.Normal → evaluate form = .error failure →
          ∀ v ∈ failure.values, v.Normal)
      ∧ (∀ name arguments, (∀ a ∈ arguments, a.Normal) →
          (∃ v, apply name arguments = .ok v ∧ v.Normal)
            ∨ ∃ failure, apply name arguments = .error failure
              ∧ ∀ v ∈ failure.values, v.Normal)
      ∧ ∀ form, (∀ datum, IsDatum datum form → datum.Normal) →
          (∀ v w, Computes form v → Computes form w →
              v.Every fun x => w.Every fun y => x.pairs = y.pairs → x = y)
            ∧ ∀ v, Computes form v → v.Every fun p => ∀ front,
                Primitive.car.apply [p] = .ok front →
                  ∃ rest, Primitive.cdr.apply [p] = .ok rest
                    ∧ Primitive.cons.apply [front, rest] = .ok p := by
  refine ⟨fun form v hform h => evaluate_every kept_straight hform h,
    fun form failure hform h => every_of_evaluate_error kept_straight hform h,
    fun name arguments h => apply_normal h name, fun form hdata => ⟨?_, ?_⟩⟩
  · intro v w hv hw
    refine (hv.normal hdata).parts.mono fun x hx => ?_
    exact (hw.normal hdata).parts.mono fun y hy hpairs => Value.eq_of_pairs_eq hx hy hpairs
  · intro v hv
    exact (hv.normal hdata).parts.mono fun p hp front hcar => cons_of_normal hp hcar

/-- A number in front of a quoted dotted list: the form and the value are
normal, the rest of the value and what a sum makes of it carry normal
values, and the value is made again of its parts. -/
theorem evaluation_keeps_normal_dotted :
    evaluate (.list [.atom "cons", .int 1, Reading.quote (.dotted (.int 2) [] (.int 3))]) =
        .ok (.dotted (.int 1) [.int 2] (.int 3))
      ∧ (Value.dotted (.int 1) [.int 2] (.int 3)).Normal
      ∧ (∃ failure, apply "+" [.dotted (.int 1) [.int 2] (.int 3), .int 4] = .error failure
          ∧ ∀ v ∈ failure.values, v.Normal)
      ∧ ∃ rest, Primitive.cdr.apply [.dotted (.int 1) [.int 2] (.int 3)] = .ok rest
          ∧ Primitive.cons.apply [.int 1, rest] = .ok (.dotted (.int 1) [.int 2] (.int 3)) := by
  have hform : (Value.list [.atom "cons", .int 1,
      Reading.quote (.dotted (.int 2) [] (.int 3))]).Normal := by decide
  have hvalue : evaluate (.list [.atom "cons", .int 1,
      Reading.quote (.dotted (.int 2) [] (.int 3))]) =
        .ok (.dotted (.int 1) [.int 2] (.int 3)) := by rfl
  have hsum : ∀ v, apply "+" [.dotted (.int 1) [.int 2] (.int 3), .int 4] ≠ .ok v := by
    intro v h
    cases h
  obtain ⟨hnormal, -, happly, hcourse⟩ := evaluation_keeps_normal
  refine ⟨hvalue, hnormal _ _ hform hvalue, ?_, ?_⟩
  · rcases happly "+" [.dotted (.int 1) [.int 2] (.int 3), .int 4] (by decide) with
      ⟨v, hv, -⟩ | hfailure
    · exact absurd hv (hsum v)
    · exact hfailure
  · obtain ⟨-, hparts⟩ := hcourse _ fun datum hdatum => hdatum.every hform
    exact (hparts _ ⟨.hole, _, rfl, trivial, hvalue⟩).1 _ rfl

end PocketScheme
