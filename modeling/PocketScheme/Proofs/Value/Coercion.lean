/-
What values are taken for, said of the values and not of the coercions.

# Numbers

A value counts as a number through the lists of one item around it: what
is inside them (`core`) is an integer, or a string that leads with a
number. If it is neither, it is what the failure names, and the lists
around it are not (`asNumber_eq_ok_iff`, `asNumber_eq_error_iff`).

# Roles

An operation takes all its operands for one thing: a number, a truth
value, a text or a pair (`Role`). For each of these there is a test of a
value that does not compute anything (`Suits`), and a coercion is one
for a role if it has a result exactly on the values that suit and
refuses the others in the words of the role (`Coerces`). Of operands
that are coerced from left to right, the first that does not suit is the
one that is blamed (`Blames`), whatever the ones after it are.
-/
import PocketScheme.Proofs.Computation
import PocketScheme.Proofs.Text.Numeral
import PocketScheme.Primitive

namespace PocketScheme

namespace Value

-- ============================================================== numbers

/-- A value out of the lists of one item around it. -/
def core : Value → Value
  | list [item] => item.core
  | v => v

/-- The number that a value counts as: the integer inside, or the number
that the string inside leads with. -/
def CountsAs (v : Value) (n : Int) : Prop :=
  v.core = int n ∨ ∃ text, v.core = str text ∧ Text.Decimal.Leads text.toList n

@[simp] theorem core_singleton (v : Value) : (list [v]).core = v.core := by
  rw [core]

theorem core_of_ne_singleton {v : Value} (h : ∀ item, v ≠ list [item]) : v.core = v := by
  unfold core
  split
  · next item => exact absurd rfl (h item)
  · rfl

/-- What is inside a value is in no list of one item any more. -/
theorem core_ne_singleton (v item : Value) : v.core ≠ list [item] := by
  fun_induction core v with
  | case1 inner ih => exact ih
  | case2 v hv => exact fun h => hv item h

/-- A value with so many lists of one item around it. -/
def wrap : Nat → Value → Value
  | 0, v => v
  | depth + 1, v => list [wrap depth v]

/-- A value is what is inside it, with lists of one item around it. -/
theorem exists_wrap_core (v : Value) : ∃ depth, wrap depth v.core = v := by
  fun_induction core v with
  | case1 inner ih =>
      obtain ⟨depth, hdepth⟩ := ih
      exact ⟨depth + 1, congrArg (fun item => list [item]) hdepth⟩
  | case2 v _ => exact ⟨0, rfl⟩

theorem asNumber_eq_ok_iff {v : Value} {n : Int} : v.asNumber = .ok n ↔ v.CountsAs n := by
  unfold CountsAs
  fun_induction asNumber v with
  | case1 m =>
      rw [core_of_ne_singleton (by simp)]
      simp
  | case2 text m hleads =>
      rw [core_of_ne_singleton (by simp)]
      simp [← Text.Decimal.leading?_eq_some_iff, hleads]
  | case3 text hnone =>
      rw [core_of_ne_singleton (by simp)]
      simp [← Text.Decimal.leading?_eq_some_iff, hnone]
  | case4 item ih =>
      rw [core_singleton]
      exact ih
  | case5 v hint hstr hlist =>
      rw [core_of_ne_singleton hlist]
      constructor
      · intro h
        cases h
      · rintro (rfl | ⟨text, rfl, -⟩)
        · exact absurd rfl (hint n)
        · exact absurd rfl (hstr text)

/-- A value that is refused is named without the lists around it. -/
theorem eq_mismatch_of_asNumber_eq_error {v : Value} {failure : Failure}
    (h : v.asNumber = .error failure) : failure = .mismatch "number" v.core := by
  fun_induction asNumber v with
  | case1 | case2 => cases h
  | case3 =>
      cases h
      rw [core_of_ne_singleton (by simp)]
  | case4 item ih =>
      rw [core_singleton]
      exact ih h
  | case5 v _ _ hlist =>
      cases h
      rw [core_of_ne_singleton hlist]

theorem asNumber_eq_error_iff {v : Value} {failure : Failure} :
    v.asNumber = .error failure ↔
      (¬∃ n, v.CountsAs n) ∧ failure = .mismatch "number" v.core := by
  constructor
  · intro h
    refine ⟨?_, eq_mismatch_of_asNumber_eq_error h⟩
    rintro ⟨n, hn⟩
    rw [asNumber_eq_ok_iff.2 hn] at h
    cases h
  · rintro ⟨hnone, rfl⟩
    cases h : v.asNumber with
    | ok n => exact absurd ⟨n, asNumber_eq_ok_iff.1 h⟩ hnone
    | error failure => rw [eq_mismatch_of_asNumber_eq_error h]

end Value

-- ================================================================ roles

/-- What an operation takes its operands for. -/
inductive Role where
  | number
  | truth
  | text
  | pair
  deriving DecidableEq, Repr

namespace Role

/-- How a failure speaks of a role. -/
def noun : Role → String
  | number => "number"
  | truth => "boolean"
  | text => "string"
  | pair => "pair"

/-- Whether a value can be taken for what a role asks. -/
def Suits : Role → Value → Prop
  | number, v => ∃ n, v.CountsAs n
  | truth, v => ∃ b, v = .bool b
  | text, v => (∃ s, v = .str s) ∨ (∃ n, v = .int n) ∨ ∃ b, v = .bool b
  | pair, v =>
    (∃ first more, v = .list (first :: more)) ∨ ∃ first more tail, v = .dotted first more tail

/-- What is named of a value that does not suit. -/
def found : Role → Value → Value
  | number, v => v.core
  | _, v => v

/-- The failure of operands of which the first one that does not suit is
blamed. -/
def Blames (role : Role) (operands : List Value) (failure : Failure) : Prop :=
  ∃ before v after, operands = before ++ v :: after ∧ (∀ w ∈ before, role.Suits w)
    ∧ ¬role.Suits v ∧ failure = .mismatch role.noun (role.found v)

variable {role : Role} {failure : Failure}

theorem not_blames_nil : ¬role.Blames [] failure := by
  rintro ⟨before, v, after, hsplit, -⟩
  simp at hsplit

/-- The first operand is blamed, or it suits and one of the others is. -/
theorem blames_cons_iff {v : Value} {operands : List Value} :
    role.Blames (v :: operands) failure ↔
      ¬role.Suits v ∧ failure = .mismatch role.noun (role.found v)
        ∨ role.Suits v ∧ role.Blames operands failure := by
  constructor
  · rintro ⟨before, w, after, hsplit, hbefore, hw, hfailure⟩
    cases before with
    | nil =>
        obtain ⟨rfl, -⟩ := List.cons.inj hsplit
        exact .inl ⟨hw, hfailure⟩
    | cons u before =>
        obtain ⟨rfl, hmore⟩ := List.cons.inj hsplit
        obtain ⟨hu, hbefore⟩ := List.forall_mem_cons.1 hbefore
        exact .inr ⟨hu, before, w, after, hmore, hbefore, hw, hfailure⟩
  · rintro (⟨hv, hfailure⟩ | ⟨hv, before, w, after, rfl, hbefore, hw, hfailure⟩)
    · exact ⟨[], v, operands, rfl, by simp, hv, hfailure⟩
    · exact ⟨v :: before, w, after, rfl, List.forall_mem_cons.2 ⟨hv, hbefore⟩, hw, hfailure⟩

theorem blames_singleton_iff {v : Value} :
    role.Blames [v] failure ↔ ¬role.Suits v ∧ failure = .mismatch role.noun (role.found v) := by
  rw [blames_cons_iff]
  simp [not_blames_nil]

/-- If an operand does not suit, there is a first one to be blamed. -/
theorem suits_or_blames (role : Role) (operands : List Value) :
    (∀ v ∈ operands, role.Suits v) ∨ ∃ failure, role.Blames operands failure := by
  induction operands with
  | nil => exact .inl (by simp)
  | cons v operands ih =>
      by_cases hv : role.Suits v
      · rcases ih with hall | ⟨failure, hblames⟩
        · exact .inl (List.forall_mem_cons.2 ⟨hv, hall⟩)
        · exact .inr ⟨failure, blames_cons_iff.2 (.inr ⟨hv, hblames⟩)⟩
      · exact .inr ⟨_, blames_cons_iff.2 (.inl ⟨hv, rfl⟩)⟩

end Role

-- ============================================================ coercions

/-- A coercion has a result on the values that suit a role, and refuses
the others in its words. -/
structure Coerces {α : Type} (coerce : Value → Except Failure α) (role : Role) : Prop where
  ok_iff (v : Value) : (∃ a, coerce v = .ok a) ↔ role.Suits v
  error_iff (v : Value) (failure : Failure) :
    coerce v = .error failure ↔ ¬role.Suits v ∧ failure = .mismatch role.noun (role.found v)

theorem coerces_asNumber : Coerces Value.asNumber .number where
  ok_iff v := by simp only [Value.asNumber_eq_ok_iff, Role.Suits]
  error_iff v failure := Value.asNumber_eq_error_iff

theorem coerces_asTruth : Coerces Value.asTruth .truth where
  ok_iff v := by cases v <;> simp [Value.asTruth, Role.Suits]
  error_iff v failure := by
    cases v <;> simp [Value.asTruth, Role.Suits, Role.noun, Role.found, eq_comm]

theorem coerces_asText : Coerces Value.asText .text where
  ok_iff v := by cases v <;> simp [Value.asText, Role.Suits]
  error_iff v failure := by
    cases v <;> simp [Value.asText, Role.Suits, Role.noun, Role.found, eq_comm]

theorem part_eq_ok_iff {part? : Value → Option Value} {v w : Value} :
    Primitive.apply.part part? v = .ok w ↔ part? v = some w := by
  rw [Primitive.apply.part]
  cases part? v <;> simp

/-- A part of a pair that exactly the pairs have is a coercion for
them. -/
theorem coerces_part {part? : Value → Option Value}
    (h : ∀ v, (∃ w, part? v = some w) ↔ Role.pair.Suits v) :
    Coerces (Primitive.apply.part part?) .pair where
  ok_iff v := by simp only [part_eq_ok_iff, h]
  error_iff v failure := by
    rw [← h v, Primitive.apply.part]
    cases part? v <;> simp [Role.noun, Role.found, eq_comm]

theorem coerces_front? : Coerces (Primitive.apply.part Value.front?) .pair := by
  refine coerces_part fun v => ?_
  cases v with
  | list items => cases items <;> simp [Value.front?, Role.Suits]
  | _ => simp [Value.front?, Role.Suits]

theorem coerces_rest? : Coerces (Primitive.apply.part Value.rest?) .pair := by
  refine coerces_part fun v => ?_
  cases v with
  | list items => cases items <;> simp [Value.rest?, Role.Suits]
  | dotted first more tail => cases more <;> simp [Value.rest?, Role.Suits]
  | _ => simp [Value.rest?, Role.Suits]

namespace Coerces

variable {α : Type} {coerce : Value → Except Failure α} {role : Role} {operands : List Value}

/-- Coerced from left to right, operands fail as the first one does that
does not suit. -/
theorem mapM_of_blames (hcoerce : Coerces coerce role) {failure : Failure}
    (h : role.Blames operands failure) : operands.mapM coerce = .error failure := by
  obtain ⟨before, v, after, rfl, hbefore, hv, hfailure⟩ := h
  refine mapM_eq_error_iff.2 ⟨before, v, after, rfl, fun w hw => ?_, ?_⟩
  · exact (hcoerce.ok_iff w).2 (hbefore w hw)
  · exact (hcoerce.error_iff v failure).2 ⟨hv, hfailure⟩

theorem mapM_of_suits (hcoerce : Coerces coerce role) (h : ∀ v ∈ operands, role.Suits v) :
    ∃ results, operands.mapM coerce = .ok results := by
  cases hresult : operands.mapM coerce with
  | ok results => exact ⟨results, rfl⟩
  | error failure =>
      obtain ⟨before, v, after, rfl, -, hv⟩ := mapM_eq_error_iff.1 hresult
      exact absurd (h v (by simp)) ((hcoerce.error_iff v failure).1 hv).1

end Coerces

end PocketScheme
