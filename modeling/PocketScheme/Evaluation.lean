/-
Evaluation: from a form to a value, or to the first failure.

Strings, integers and booleans are their own values. A list with an atom
in front is a special form, if the atom names one, and otherwise a call:
its operands are evaluated from left to right and the primitive of that
name is applied to the values. No other form has a value.

An evaluation also leaves the list of its applications, in order. The
application that fails is in the list; the call of a name that names no
primitive is none. Nothing is computed after the first failure, so the
list ends with it.
-/
import PocketScheme.Primitive

namespace PocketScheme

-- ================================================= traced computations

/-- A primitive's name and the values it is applied to. -/
structure Application where
  name : String
  arguments : List Value
  deriving DecidableEq, Repr

/-- The applications of a computation and its outcome. -/
structure Traced (α : Type) where
  applications : List Application
  outcome : Except Failure α

namespace Traced

/-- One computation after another: the second takes place only if the
first one has a result. -/
instance : Monad Traced where
  pure a := ⟨[], .ok a⟩
  bind first next :=
    match first.outcome with
    | .error failure => ⟨first.applications, .error failure⟩
    | .ok a => ⟨first.applications ++ (next a).applications, (next a).outcome⟩

/-- The computation that fails. -/
def fail {α : Type} (failure : Failure) : Traced α := ⟨[], .error failure⟩

/-- The application of a named primitive. -/
def call (name : String) (arguments : List Value) : Traced Value :=
  match Primitive.ofName? name with
  | some _ => ⟨[⟨name, arguments⟩], apply name arguments⟩
  | none => ⟨[], apply name arguments⟩

end Traced

-- ======================================================= special forms

/-- The special forms. -/
inductive SpecialForm where
  /-- Takes its operand for its value. -/
  | quote
  /-- Evaluates a condition and one of two branches. -/
  | choice
  deriving DecidableEq, Repr

namespace SpecialForm

/-- The name of a special form. -/
def name : SpecialForm → String
  | quote => "quote"
  | choice => "if"

/-- Every special form, once. -/
def all : List SpecialForm := [quote, choice]

/-- The special form of a name. -/
def ofName? (name : String) : Option SpecialForm := all.find? fun form => form.name = name

/-- What a special form asks of its operands. -/
def demand : SpecialForm → String
  | quote => "quote requires exactly one expression"
  | choice => "if requires a condition plus then and else expressions"

end SpecialForm

-- ========================================================== evaluation

mutual

/-- The evaluation of a form. -/
def evaluateTraced : Value → Traced Value
  | .str text => pure (.str text)
  | .int n => pure (.int n)
  | .bool b => pure (.bool b)
  | .list (.atom name :: operands) =>
    match SpecialForm.ofName? name with
    | some .quote =>
      match operands with
      | [form] => pure form
      | _ => .fail (.badForm SpecialForm.quote.demand (.list (.atom name :: operands)))
    | some .choice =>
      match operands with
      | [condition, thenForm, elseForm] => do
        let v ← evaluateTraced condition
        if v = .bool false then evaluateTraced elseForm else evaluateTraced thenForm
      | _ => .fail (.badForm SpecialForm.choice.demand (.list (.atom name :: operands)))
    | none => do
      let arguments ← evaluateAllTraced operands
      .call name arguments
  | form => .fail (.badForm "Unrecognized special form" form)

/-- The evaluation of forms, from left to right. -/
def evaluateAllTraced : List Value → Traced (List Value)
  | [] => pure []
  | form :: forms => do
    let v ← evaluateTraced form
    let vs ← evaluateAllTraced forms
    return v :: vs

end

/-- The value of a form. -/
def evaluate (form : Value) : Except Failure Value := (evaluateTraced form).outcome

end PocketScheme
