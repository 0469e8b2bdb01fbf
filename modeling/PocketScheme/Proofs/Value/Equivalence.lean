/-
Equivalence and equality are one relation.

Equality goes part by part, and two dotted lists are equal if they have
equal items and equal tails. The test for equivalence never compares
dotted lists in this way: it makes longer lists of them, and it compares
lists by asking the test again for every pair of items, which might give
any answer or none. That it gives the answer of equality is one
induction along the test (`eqv_pair`). The list that is made of a dotted
list holds as much as it (`flatten_inj`), and of every pair of items the
induction knows that the test has an answer and which.
-/
import PocketScheme.Primitive

namespace PocketScheme

namespace Value

/-- No two dotted lists make the same list. -/
theorem flatten_inj {x y : Value} {xs ys : List Value} {t u : Value} :
    flatten x xs t = flatten y ys u ↔ x = y ∧ xs = ys ∧ t = u := by
  simp [flatten]

theorem same_list_flatten (x : Value) (xs : List Value) (t y : Value) (ys : List Value)
    (u : Value) :
    same (list (flatten x xs t)) (list (flatten y ys u)) =
      same (dotted x xs t) (dotted y ys u) := by
  rw [Bool.eq_iff_iff, same_iff, same_iff, list.injEq, dotted.injEq, flatten_inj]

/-- Lists are the same if they are of one length and the same pair by
pair. -/
theorem sameItems_eq_all_zip (xs ys : List Value) :
    sameItems xs ys = (xs.length == ys.length && (xs.zip ys).all fun p => same p.1 p.2) := by
  induction xs generalizing ys with
  | nil => cases ys <;> rfl
  | cons x xs ih =>
      cases ys with
      | nil => rfl
      | cons y ys =>
          rw [sameItems, ih, List.zip_cons_cons, List.all_cons, Bool.and_left_comm]
          simp

/-- The test of two values gives an answer, which is whether they are the
same. -/
theorem eqv_pair (v w : Value) : eqv [v, w] = .ok (bool (same v w)) := by
  generalize h : [v, w] = arguments
  fun_induction eqv arguments generalizing v w with
  | case1 a b | case2 a b | case3 a b | case4 a b =>
      cases h
      rw [same]
  | case5 x xs t y ys u ih =>
      cases h
      rw [ih _ _ rfl, same_list_flatten]
  | case6 xs ys ih =>
      cases h
      have hpair (p : Value × Value) (hmem : p ∈ xs.zip ys) :
          affirms (eqv [p.1, p.2]) = same p.1 p.2 := by
        rw [ih p.1 p.2 hmem _ _ rfl, affirms]
      rw [same, sameItems_eq_all_zip, Except.ok.injEq, bool.injEq]
      refine congrArg (_ && ·) ?_
      exact (List.all_subtype hpair).trans (by rw [List.unattach_attach])
  | case7 v w hbool hint hstr hatom hdotted hlist =>
      cases h
      -- values of one kind are taken by the cases above
      cases v <;> cases w <;> simp_all [same]
  | case8 arguments _ _ _ _ _ _ hpair => exact absurd h.symm (hpair v w)

theorem eqv_of_length_ne {arguments : List Value} (h : arguments.length ≠ 2) :
    eqv arguments = .error (.arity 2 arguments) := by
  fun_cases eqv arguments with
  | case8 => rfl
  | _ => exact absurd rfl h

/-- The test says yes or no, or names its arguments, and it does not fail
in any other way. -/
theorem eqv_cases (arguments : List Value) :
    (∃ b, eqv arguments = .ok (bool b)) ∨ eqv arguments = .error (.arity 2 arguments) := by
  match arguments with
  | [v, w] => exact .inl ⟨same v w, eqv_pair v w⟩
  | [] | [_] | _ :: _ :: _ :: _ => exact .inr (eqv_of_length_ne (by simp))

end Value

open Value

/-- The test for equivalence answers on every two values, and it says yes
exactly if they are equal, so it is an equivalence relation; the lists
that are made of dotted lists are equal exactly if these are. On any
other number of arguments the test fails, and names them. -/
theorem eqv_decides_equality :
    (∀ v w, Primitive.eqv.apply [v, w] = .ok (.bool (same v w)) ∧ (same v w = true ↔ v = w))
      ∧ Equivalence (fun v w => Primitive.eqv.apply [v, w] = .ok (.bool true))
      ∧ (∀ x xs t y ys u,
          flatten x xs t = flatten y ys u ↔ Value.dotted x xs t = Value.dotted y ys u)
      ∧ ∀ arguments : List Value, arguments.length ≠ 2 →
          Primitive.eqv.apply arguments = .error (.arity 2 arguments) := by
  have hyes (v w : Value) : Primitive.eqv.apply [v, w] = .ok (.bool true) ↔ v = w := by
    rw [Primitive.apply, eqv_pair, Except.ok.injEq, bool.injEq, same_iff]
  refine ⟨fun v w => ⟨eqv_pair v w, same_iff⟩, ?_, fun x xs t y ys u => ?_,
    fun arguments h => eqv_of_length_ne h⟩
  · simp only [hyes]
    exact ⟨Eq.refl, Eq.symm, Eq.trans⟩
  · rw [flatten_inj, dotted.injEq]

/-- One argument is too few, even for a test that can only say yes. -/
theorem eqv_decides_equality_one :
    [Value.int 1].length ≠ 2
      ∧ Primitive.eqv.apply [.int 1] = .error (.arity 2 [.int 1]) := by
  have hlength : [Value.int 1].length ≠ 2 := by decide
  obtain ⟨-, -, -, hcount⟩ := eqv_decides_equality
  exact ⟨hlength, hcount _ hlength⟩

end PocketScheme
