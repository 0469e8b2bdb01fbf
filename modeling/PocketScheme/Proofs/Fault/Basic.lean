/-
Faults, and computations that may come to one.

The types of the program leave no room for some mistakes: there is no
dotted list without an item, a division by zero has no result instead of
a wrong one, and a stream at its end has its last token again and again.
So it goes without saying that the program does not make them, and it is
not said why. A bare computation is the same computation without these
types. It makes a dotted list of any items, divides by any number and
asks for a next token after any other, and comes to a fault (`Fault`)
where that makes no sense. Nothing answers for a fault; a failure of the
program stays what it is (`Stop`).

What is to be shown of each bare computation is that its outcome is that
of the program, as one without a fault (`faultless`).
-/
import PocketScheme.Failure

namespace PocketScheme

/-- What a bare computation comes to where it makes no sense. -/
inductive Fault where
  /-- A number is divided by zero. -/
  | zeroDivisor
  /-- A dotted list is made without an item. -/
  | noItems
  /-- A token is asked for after the last one. -/
  | exhausted
  deriving DecidableEq, Repr

/-- Why a bare computation stops. -/
inductive Stop where
  | failure (failure : Failure)
  | fault (fault : Fault)
  deriving DecidableEq, Repr

-- ==================================================== without a fault

/-- The outcome of a computation, as that of a bare one. -/
def faultless {α : Type} (outcome : Except Failure α) : Except Stop α :=
  outcome.mapError .failure

section Faultless

variable {α β : Type}

@[simp] theorem faultless_ok (a : α) : faultless (.ok a) = .ok a := rfl

@[simp] theorem faultless_error (failure : Failure) :
    faultless (.error failure : Except Failure α) = .error (.failure failure) := rfl

@[simp] theorem faultless_bind (first : Except Failure α) (next : α → Except Failure β) :
    faultless (first >>= next) = faultless first >>= fun a => faultless (next a) := by
  cases first with
  | error failure => rfl
  | ok a => rfl

theorem faultless_ne_fault (outcome : Except Failure α) (fault : Fault) :
    faultless outcome ≠ .error (.fault fault) := by
  cases outcome with
  | error failure =>
      intro h
      cases h
  | ok a =>
      intro h
      cases h

theorem faultless_eq_failure_iff {outcome : Except Failure α} {failure : Failure} :
    faultless outcome = .error (.failure failure) ↔ outcome = .error failure := by
  cases outcome with
  | error failure' => simp
  | ok a => simp

end Faultless

/-- A dotted list of any items. -/
def Bare.dotted : List Value → Value → Except Stop Value
  | [], _ => .error (.fault .noItems)
  | first :: more, tail => .ok (.dotted first more tail)

@[simp] theorem Bare.dotted_cons (first : Value) (more : List Value) (tail : Value) :
    dotted (first :: more) tail = .ok (.dotted first more tail) := rfl

end PocketScheme
