/-
Applying and evaluating without a fault.

Two of the faults could come up here. Four of the arithmetic operations
divide, the rounding toward zero by way of the division of the absolute
values, and a remainder by way of that; one place catches the fault, and
it has to be around all combining of numbers (`Bare.arithmetic`). And a
dotted list is made of the items that another one leaves, of which there
may be none if the case of a single item does not come first
(`Bare.rest`).

Every bare operation is shown to have the outcome of the operation
(`bare_perform`), and so does every bare evaluation (`bare_evaluate`).
-/
import PocketScheme.Proofs.Evaluation.Outcome
import PocketScheme.Proofs.Fault.Basic

namespace PocketScheme

namespace Bare

-- ========================================================== operations

/-- A quotient, rounded down. -/
def divide (a b : Int) : Except Stop Int :=
  if b = 0 then .error (.fault .zeroDivisor) else .ok (a.fdiv b)

/-- What a quotient rounded down leaves. -/
def modulo (a b : Int) : Except Stop Int :=
  if b = 0 then .error (.fault .zeroDivisor) else .ok (a.fmod b)

/-- A quotient, rounded toward zero: that of the absolute values, with
the sign put to it. -/
def quotient (a b : Int) : Except Stop Int := do
  let q ← divide a.natAbs b.natAbs
  return if (a < 0) = (b < 0) then q else -q

/-- What a quotient rounded toward zero leaves. -/
def remainder (a b : Int) : Except Stop Int := do
  let q ← quotient a b
  return a - b * q

/-- Two numbers combined. -/
def combine : Arithmetic → Int → Int → Except Stop Int
  | .add, a, b => .ok (a + b)
  | .subtract, a, b => .ok (a - b)
  | .multiply, a, b => .ok (a * b)
  | .divide, a, b => divide a b
  | .modulo, a, b => modulo a b
  | .quotient, a, b => quotient a b
  | .remainder, a, b => remainder a b

/-- A division by zero turned into a failure. No other fault is
caught. -/
def guarded {α : Type} (failure : Failure) (outcome : Except Stop α) : Except Stop α :=
  match outcome with
  | .error (.fault .zeroDivisor) => .error (.failure failure)
  | outcome => outcome

/-- An arithmetic operation on its arguments. -/
def arithmetic (op : Arithmetic) (arguments : List Value) : Except Stop Value :=
  match arguments with
  | first :: second :: more => do
    let number ← faultless first.asNumber
    let numbers ← faultless ((second :: more).mapM Value.asNumber)
    let result ← guarded (.divisionByZero op.name arguments) (numbers.foldlM (combine op) number)
    return .int result
  | _ => .error (.failure (.arity 2 arguments))

/-- What follows the first item. -/
def rest : Value → Except Stop Value
  | .list (_ :: more) => .ok (.list more)
  | .dotted _ [] tail => .ok tail
  | .dotted _ more tail => dotted more tail
  | v => .error (.failure (.mismatch "pair" v))

/-- A value in front of another. -/
def cons : Value → Value → Except Stop Value
  | v, .list items => .ok (.list (v :: items))
  | v, .dotted first more tail => dotted (v :: first :: more) tail
  | v, tail => dotted [v] tail

/-- A primitive on its arguments. Those that neither combine numbers nor
make lists are as they were. -/
def perform : Primitive → List Value → Except Stop Value
  | .arithmetic op, arguments => arithmetic op arguments
  | .cdr, [v] => rest v
  | .cons, [v, w] => cons v w
  | p, arguments => faultless (p.apply arguments)

/-- The primitive of a name on arguments. -/
def apply (name : String) (arguments : List Value) : Except Stop Value :=
  match Primitive.ofName? name with
  | some p => perform p arguments
  | none =>
    .error (.failure (.unknownProcedure "Unrecognized primitive function args" name))

-- ========================================================== evaluation

mutual

/-- The value of a form. -/
def evaluate : Value → Except Stop Value
  | .str text => .ok (.str text)
  | .int n => .ok (.int n)
  | .bool b => .ok (.bool b)
  | .list (.atom name :: operands) =>
    match SpecialForm.ofName? name with
    | some .quote =>
      match operands with
      | [form] => .ok form
      | _ =>
        .error (.failure (.badForm SpecialForm.quote.demand (.list (.atom name :: operands))))
    | some .choice =>
      match operands with
      | [condition, thenForm, elseForm] => do
        let v ← evaluate condition
        if v = .bool false then evaluate elseForm else evaluate thenForm
      | _ =>
        .error (.failure (.badForm SpecialForm.choice.demand (.list (.atom name :: operands))))
    | none => do
      let arguments ← evaluateAll operands
      apply name arguments
  | form => .error (.failure (.badForm "Unrecognized special form" form))

/-- The values of forms, from left to right. -/
def evaluateAll : List Value → Except Stop (List Value)
  | [] => .ok []
  | form :: forms => do
    let v ← evaluate form
    let vs ← evaluateAll forms
    return v :: vs

end

end Bare

-- ==================================================== operation by operation

/-- A result that may be missing, as that of a division by zero. -/
def divided {α : Type} (result : Option α) : Except Stop α :=
  match result with
  | some a => .ok a
  | none => .error (.fault .zeroDivisor)

theorem bare_quotient_of_ne {a b : Int} (hb : b ≠ 0) :
    Bare.quotient a b = .ok (Arithmetic.quotientTowardZero a b) := by
  have hb' : (b.natAbs : Int) ≠ 0 := by omega
  rw [Bare.quotient, Bare.divide, if_neg hb']
  rfl

theorem bare_remainder_of_ne {a b : Int} (hb : b ≠ 0) :
    Bare.remainder a b = .ok (Arithmetic.remainderTowardZero a b) := by
  rw [Bare.remainder, bare_quotient_of_ne hb]
  rfl

theorem bare_combine (op : Arithmetic) (a b : Int) :
    Bare.combine op a b = divided (op.combine a b) := by
  by_cases hb : b = 0
  · subst hb
    cases op <;> rfl
  · cases op with
    | add | subtract | multiply => rfl
    | divide =>
        rw [Bare.combine, Bare.divide, Arithmetic.combine, if_neg hb, if_neg hb]
        rfl
    | modulo =>
        rw [Bare.combine, Bare.modulo, Arithmetic.combine, if_neg hb, if_neg hb]
        rfl
    | quotient =>
        rw [Bare.combine, bare_quotient_of_ne hb, Arithmetic.combine, if_neg hb]
        rfl
    | remainder =>
        rw [Bare.combine, bare_remainder_of_ne hb, Arithmetic.combine, if_neg hb]
        rfl

/-- A remainder divides as well, though only by way of a quotient. -/
example : Bare.combine .remainder 7 0 = .error (.fault .zeroDivisor) := by rfl

theorem bare_foldlM (op : Arithmetic) (a : Int) (numbers : List Int) :
    numbers.foldlM (Bare.combine op) a = divided (numbers.foldlM op.combine a) := by
  induction numbers generalizing a with
  | nil => rfl
  | cons b numbers ih =>
      rw [List.foldlM_cons, List.foldlM_cons, bare_combine]
      cases op.combine a b with
      | none => rfl
      | some c => exact ih c

/-- Numbers are combined inside the place that catches a division by
zero. -/
theorem bare_arithmetic (op : Arithmetic) (arguments : List Value) :
    Bare.arithmetic op arguments = faultless (op.apply arguments) := by
  match arguments with
  | [] | [_] => rfl
  | first :: second :: more =>
      rw [Bare.arithmetic, Arithmetic.apply, faultless_bind]
      congr 1
      funext number
      rw [faultless_bind]
      congr 1
      funext numbers
      rw [bare_foldlM]
      cases numbers.foldlM op.combine number with
      | none => rfl
      | some result => rfl

/-- The items that a dotted list leaves are some, as that of a single
item leaves its tail. -/
theorem bare_rest (v : Value) : Bare.rest v = faultless (Primitive.cdr.apply [v]) := by
  cases v with
  | list items => cases items <;> rfl
  | dotted first more tail => cases more <;> rfl
  | _ => rfl

theorem bare_cons (v w : Value) : Bare.cons v w = faultless (Primitive.cons.apply [v, w]) := by
  cases w <;> rfl

theorem bare_perform (p : Primitive) (arguments : List Value) :
    Bare.perform p arguments = faultless (p.apply arguments) := by
  unfold Bare.perform
  split
  · next op => exact bare_arithmetic op _
  · next v => exact bare_rest v
  · next v w => exact bare_cons v w
  · rfl

theorem bare_apply (name : String) (arguments : List Value) :
    Bare.apply name arguments = faultless (apply name arguments) := by
  unfold Bare.apply apply
  cases Primitive.ofName? name with
  | none => rfl
  | some p => exact bare_perform p arguments

-- =============================================================== form by form

mutual

/-- The evaluation of a form comes to no fault, and the bare evaluation
to what it comes to. -/
theorem bare_evaluate : ∀ form : Value, Bare.evaluate form = faultless (evaluate form)
  | .str _ | .int _ | .bool _ | .atom _ | .dotted _ _ _ | .list [] => rfl
  | .list (.str _ :: _) | .list (.int _ :: _) | .list (.bool _ :: _) | .list (.list _ :: _)
  | .list (.dotted _ _ _ :: _) => rfl
  | .list (.atom name :: operands) => by
      rw [Bare.evaluate.eq_def, evaluate, evaluateTraced.eq_def]
      simp only
      cases SpecialForm.ofName? name with
      | none =>
          simp only [Traced.outcome_bind, Traced.outcome_call, faultless_bind,
            outcome_evaluateAllTraced, bare_evaluateAll operands, bare_apply]
      | some special =>
          cases special with
          | quote =>
              match operands with
              | [_] | [] | _ :: _ :: _ => rfl
          | choice =>
              match operands with
              | [condition, thenForm, elseForm] =>
                  simp only [Traced.outcome_bind, faultless_bind, bare_evaluate condition]
                  show _ = faultless (evaluate condition) >>= _
                  congr 1
                  funext v
                  -- either branch may be the one that is taken
                  by_cases hv : v = .bool false
                  · rw [if_pos hv, if_pos hv]
                    exact bare_evaluate elseForm
                  · rw [if_neg hv, if_neg hv]
                    exact bare_evaluate thenForm
              | [] | [_] | [_, _] | _ :: _ :: _ :: _ :: _ => rfl

theorem bare_evaluateAll :
    ∀ forms : List Value, Bare.evaluateAll forms = faultless (forms.mapM evaluate)
  | [] => rfl
  | form :: forms => by
      rw [List.mapM_cons, faultless_bind, ← bare_evaluate form, Bare.evaluateAll,
        bare_evaluateAll forms]
      congr 1
      funext v
      rw [faultless_bind]
      rfl

end

end PocketScheme
