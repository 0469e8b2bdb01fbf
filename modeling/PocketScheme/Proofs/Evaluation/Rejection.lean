/-
Which applications are rejected, and with which failure.

There are four reasons, and the first that applies is the one that
counts: the name is no primitive's, the number of arguments is not one
that the primitive takes, an argument does not suit, or a division has a
zero divisor (`Rejection`). What a primitive takes is said of it once:
how many arguments (`Primitive.Accepts`), for what it takes them
(`Primitive.role`), and when it divides by zero
(`Primitive.DividesByZero`).

For each reason but the first there is a lemma that the primitive fails
in this way if the earlier reasons do not apply, and one that it has a
value if none does. As one of these five cases is always there, they
make together that an application fails exactly as it is rejected
(`apply_eq_error_iff`).

All numbers are coerced before any two are combined, so a zero divisor
is not met if a later argument does not suit; and no number makes the
combining end early, so a zero anywhere after the first number is met
(`foldlM_combine_eq_none_iff`).
-/
import PocketScheme.Proofs.Computation
import PocketScheme.Proofs.Value.Coercion
import PocketScheme.Proofs.Value.Equivalence

namespace PocketScheme

-- ================================================= what a primitive takes

/-- The arithmetic operations that divide. -/
def Arithmetic.Divides : Arithmetic → Prop
  | divide | modulo | quotient | remainder => True
  | add | subtract | multiply => False

namespace Primitive

/-- The number of arguments that a failure says is expected. -/
def expected : Primitive → Nat
  | car | cdr => 1
  | _ => 2

/-- Whether a primitive takes a number of arguments. Arithmetic takes
more than it expects. -/
def Accepts : Primitive → Nat → Prop
  | arithmetic _, count => 2 ≤ count
  | p, count => count = p.expected

/-- What a primitive takes its arguments for, unless it takes any values
as they are. -/
def role : Primitive → Option Role
  | arithmetic _ | compareNumbers _ => some .number
  | connect _ => some .truth
  | compareTexts _ => some .text
  | car | cdr => some .pair
  | cons | eqv => none

/-- Whether every argument can be taken for what the primitive needs. -/
def Suited (p : Primitive) (arguments : List Value) : Prop :=
  ∀ role, p.role = some role → ∀ v ∈ arguments, role.Suits v

/-- Whether a primitive divides by an argument that counts as zero. The
first argument is no divisor. -/
def DividesByZero : Primitive → List Value → Prop
  | arithmetic op, arguments => op.Divides ∧ ∃ v ∈ arguments.tail, v.CountsAs 0
  | _, _ => False

/-- If an argument does not suit, there is a first one to be blamed. -/
theorem suited_or_blames (p : Primitive) (arguments : List Value) :
    p.Suited arguments
      ∨ ∃ role failure, p.role = some role ∧ role.Blames arguments failure := by
  cases hrole : p.role with
  | none =>
      refine .inl fun role h => ?_
      rw [hrole] at h
      cases h
  | some role =>
      rcases role.suits_or_blames arguments with hsuits | ⟨failure, hblames⟩
      · refine .inl fun role' h => ?_
        obtain rfl := Option.some.inj (hrole.symm.trans h)
        exact hsuits
      · exact .inr ⟨role, failure, rfl, hblames⟩

theorem name_of_ofName? {name : String} {p : Primitive} (h : ofName? name = some p) :
    p.name = name := by
  simpa using List.find?_some h

end Primitive

/-- Why an application fails, and with which failure. Each reason
excludes the ones before it. -/
inductive Rejection (name : String) (arguments : List Value) : Failure → Prop where
  /-- The name is no primitive's. -/
  | unknown : (∀ p : Primitive, p.name ≠ name) →
      Rejection name arguments (.unknownProcedure "Unrecognized primitive function args" name)
  /-- The primitive does not take that many arguments, whatever they
  are. -/
  | count {p : Primitive} : p.name = name → ¬p.Accepts arguments.length →
      Rejection name arguments (.arity p.expected arguments)
  /-- An argument does not suit, and none to the left of it is to
  blame. -/
  | operand {p : Primitive} {role : Role} {failure : Failure} : p.name = name →
      p.Accepts arguments.length → p.role = some role → role.Blames arguments failure →
      Rejection name arguments failure
  /-- A divisor counts as zero. The failure names the arguments, not the
  numbers that they count as. -/
  | zeroDivisor {p : Primitive} : p.name = name → p.Accepts arguments.length →
      p.Suited arguments → p.DividesByZero arguments →
      Rejection name arguments (.divisionByZero name arguments)

-- ============================================================ arithmetic

namespace Arithmetic

variable {op : Arithmetic}

theorem combine_eq_none_iff {a b : Int} : op.combine a b = none ↔ op.Divides ∧ b = 0 := by
  cases op <;> simp [combine, Divides]

/-- Numbers cannot be combined exactly if one after the first is divided
by and is zero, whatever the others make before it. -/
theorem foldlM_combine_eq_none_iff {a : Int} {numbers : List Int} :
    numbers.foldlM op.combine a = none ↔ op.Divides ∧ 0 ∈ numbers := by
  -- for any number combined so far: what it is does not matter to a divisor
  induction numbers generalizing a with
  | nil => simp
  | cons b numbers ih =>
      rw [List.foldlM_cons, List.mem_cons]
      cases hcombine : op.combine a b with
      | none =>
          obtain ⟨hdivides, rfl⟩ := combine_eq_none_iff.1 hcombine
          exact iff_of_true rfl ⟨hdivides, .inl rfl⟩
      | some c =>
          have hb : op.Divides → 0 ≠ b := by
            rintro hdivides rfl
            rw [combine_eq_none_iff.2 ⟨hdivides, rfl⟩] at hcombine
            cases hcombine
          refine Iff.trans ih (and_congr_right fun hdivides => ?_)
          rw [or_iff_right (hb hdivides)]

theorem apply_of_length_lt {arguments : List Value} (h : arguments.length < 2) :
    op.apply arguments = .error (.arity 2 arguments) := by
  match arguments with
  | [] | [_] => rfl
  | _ :: _ :: more =>
      simp only [List.length_cons] at h
      omega

variable {first second : Value} {more : List Value}

theorem apply_of_blames {failure : Failure}
    (h : Role.number.Blames (first :: second :: more) failure) :
    op.apply (first :: second :: more) = .error failure := by
  rw [apply, bind_eq_error_iff]
  rcases Role.blames_cons_iff.1 h with hfirst | ⟨hfirst, hmore⟩
  · exact .inl ((coerces_asNumber.error_iff first failure).2 hfirst)
  · obtain ⟨number, hnumber⟩ := (coerces_asNumber.ok_iff first).2 hfirst
    refine .inr ⟨number, hnumber, ?_⟩
    rw [bind_eq_error_iff]
    exact .inl (coerces_asNumber.mapM_of_blames hmore)

/-- The numbers that arguments count as are combined from the left. -/
theorem apply_of_numbers {number : Int} {numbers : List Int}
    (hfirst : first.asNumber = .ok number)
    (hmore : (second :: more).mapM Value.asNumber = .ok numbers) :
    op.apply (first :: second :: more) =
      match numbers.foldlM op.combine number with
      | some result => .ok (.int result)
      | none => .error (.divisionByZero op.name (first :: second :: more)) := by
  rw [apply, hfirst, hmore]
  rfl

/-- Arguments that all count as numbers are combined, and it is known of
the numbers which of them are zero. -/
theorem apply_of_suits (op : Arithmetic)
    (h : ∀ v ∈ first :: second :: more, Role.number.Suits v) :
    ∃ (number : Int) (numbers : List Int), (0 ∈ numbers ↔ ∃ v ∈ second :: more, v.CountsAs 0)
      ∧ op.apply (first :: second :: more) =
          match numbers.foldlM op.combine number with
          | some result => .ok (.int result)
          | none => .error (.divisionByZero op.name (first :: second :: more)) := by
  obtain ⟨hfirst, hmore⟩ := List.forall_mem_cons.1 h
  obtain ⟨number, hnumber⟩ := (coerces_asNumber.ok_iff first).2 hfirst
  obtain ⟨numbers, hnumbers⟩ := coerces_asNumber.mapM_of_suits hmore
  refine ⟨number, numbers, ?_, apply_of_numbers hnumber hnumbers⟩
  rw [mem_iff_of_mapM_eq_ok hnumbers]
  simp only [Value.asNumber_eq_ok_iff]

theorem apply_of_zeroDivisor (h : ∀ v ∈ first :: second :: more, Role.number.Suits v)
    (hdivides : op.Divides) (hzero : ∃ v ∈ second :: more, v.CountsAs 0) :
    op.apply (first :: second :: more) =
      .error (.divisionByZero op.name (first :: second :: more)) := by
  obtain ⟨number, numbers, hmem, happly⟩ := apply_of_suits op h
  rw [happly, foldlM_combine_eq_none_iff.2 ⟨hdivides, hmem.2 hzero⟩]

theorem exists_apply_eq_ok (h : ∀ v ∈ first :: second :: more, Role.number.Suits v)
    (hnonzero : ¬(op.Divides ∧ ∃ v ∈ second :: more, v.CountsAs 0)) :
    ∃ v, op.apply (first :: second :: more) = .ok v := by
  obtain ⟨number, numbers, hmem, happly⟩ := apply_of_suits op h
  rw [happly]
  cases hcombine : numbers.foldlM op.combine number with
  | some result => exact ⟨.int result, rfl⟩
  | none =>
      obtain ⟨hdivides, hzero⟩ := foldlM_combine_eq_none_iff.1 hcombine
      exact absurd ⟨hdivides, hmem.1 hzero⟩ hnonzero

end Arithmetic

-- ================================================== two arguments of a kind

section Tests

variable {α : Type} {coerce : Value → Except Failure α} {test : α → α → Bool} {role : Role}

theorem testTwo_of_length_ne {arguments : List Value} (h : arguments.length ≠ 2) :
    testTwo coerce test arguments = .error (.arity 2 arguments) := by
  match arguments with
  | [] | [_] | _ :: _ :: _ :: _ => rfl
  | [_, _] => exact absurd rfl h

theorem testTwo_of_blames (hcoerce : Coerces coerce role) {left right : Value}
    {failure : Failure} (h : role.Blames [left, right] failure) :
    testTwo coerce test [left, right] = .error failure := by
  rw [testTwo, bind_eq_error_iff]
  rcases Role.blames_cons_iff.1 h with hleft | ⟨hleft, hmore⟩
  · exact .inl ((hcoerce.error_iff left failure).2 hleft)
  rcases Role.blames_cons_iff.1 hmore with hright | ⟨-, hnone⟩
  · obtain ⟨a, ha⟩ := (hcoerce.ok_iff left).2 hleft
    refine .inr ⟨a, ha, ?_⟩
    rw [bind_eq_error_iff]
    exact .inl ((hcoerce.error_iff right failure).2 hright)
  · exact absurd hnone Role.not_blames_nil

theorem testTwo_of_suits (hcoerce : Coerces coerce role) {left right : Value}
    (h : ∀ v ∈ [left, right], role.Suits v) :
    ∃ v, testTwo coerce test [left, right] = .ok v := by
  obtain ⟨a, ha⟩ := (hcoerce.ok_iff left).2 (h left (by simp))
  obtain ⟨b, hb⟩ := (hcoerce.ok_iff right).2 (h right (by simp))
  rw [testTwo, ha, hb]
  exact ⟨.bool (test a b), rfl⟩

end Tests

-- ====================================================== reason by reason

namespace Primitive

variable {p : Primitive} {arguments : List Value}

theorem apply_of_not_accepts (h : ¬p.Accepts arguments.length) :
    p.apply arguments = .error (.arity p.expected arguments) := by
  cases p with
  | arithmetic op => exact Arithmetic.apply_of_length_lt (Nat.lt_of_not_le h)
  | compareNumbers | connect | compareTexts => exact testTwo_of_length_ne h
  | car | cdr =>
      match arguments with
      | [] | _ :: _ :: _ => rfl
      | [_] => exact absurd rfl h
  | cons =>
      match arguments with
      | [] | [_] | _ :: _ :: _ :: _ => rfl
      | [_, _] => exact absurd rfl h
  | eqv => exact Value.eqv_of_length_ne h

theorem apply_of_blames (haccepts : p.Accepts arguments.length) {role : Role}
    (hrole : p.role = some role) {failure : Failure} (h : role.Blames arguments failure) :
    p.apply arguments = .error failure := by
  cases p with
  | arithmetic op =>
      cases hrole
      match arguments, haccepts with
      | _ :: _ :: _, _ => exact Arithmetic.apply_of_blames h
  | compareNumbers relation =>
      cases hrole
      match arguments, haccepts with
      | [_, _], _ => exact testTwo_of_blames coerces_asNumber h
  | connect connective =>
      cases hrole
      match arguments, haccepts with
      | [_, _], _ => exact testTwo_of_blames coerces_asTruth h
  | compareTexts relation =>
      cases hrole
      match arguments, haccepts with
      | [_, _], _ => exact testTwo_of_blames coerces_asText h
  | car =>
      cases hrole
      match arguments, haccepts with
      | [v], _ => exact (coerces_front?.error_iff v failure).2 (Role.blames_singleton_iff.1 h)
  | cdr =>
      cases hrole
      match arguments, haccepts with
      | [v], _ => exact (coerces_rest?.error_iff v failure).2 (Role.blames_singleton_iff.1 h)
  | cons | eqv => cases hrole

theorem apply_of_dividesByZero (haccepts : p.Accepts arguments.length)
    (hsuited : p.Suited arguments) (h : p.DividesByZero arguments) :
    p.apply arguments = .error (.divisionByZero p.name arguments) := by
  cases p with
  | arithmetic op =>
      obtain ⟨hdivides, hzero⟩ := h
      match arguments, haccepts with
      | _ :: _ :: _, _ =>
          exact Arithmetic.apply_of_zeroDivisor (hsuited .number rfl) hdivides hzero
  | _ => cases h

theorem exists_apply_eq_ok (haccepts : p.Accepts arguments.length)
    (hsuited : p.Suited arguments) (h : ¬p.DividesByZero arguments) :
    ∃ v, p.apply arguments = .ok v := by
  cases p with
  | arithmetic op =>
      match arguments, haccepts with
      | _ :: _ :: _, _ => exact Arithmetic.exists_apply_eq_ok (hsuited .number rfl) h
  | compareNumbers relation =>
      match arguments, haccepts with
      | [_, _], _ => exact testTwo_of_suits coerces_asNumber (hsuited .number rfl)
  | connect connective =>
      match arguments, haccepts with
      | [_, _], _ => exact testTwo_of_suits coerces_asTruth (hsuited .truth rfl)
  | compareTexts relation =>
      match arguments, haccepts with
      | [_, _], _ => exact testTwo_of_suits coerces_asText (hsuited .text rfl)
  | car =>
      match arguments, haccepts with
      | [v], _ => exact (coerces_front?.ok_iff v).2 (hsuited .pair rfl v (by simp))
  | cdr =>
      match arguments, haccepts with
      | [v], _ => exact (coerces_rest?.ok_iff v).2 (hsuited .pair rfl v (by simp))
  | cons =>
      match arguments, haccepts with
      | [v, w], _ => exact ⟨v.cons w, rfl⟩
  | eqv =>
      match arguments, haccepts with
      | [v, w], _ => exact ⟨_, Value.eqv_pair v w⟩

end Primitive

-- ======================================================= the application

/-- A primitive is applied by its name. -/
theorem apply_name (p : Primitive) (arguments : List Value) :
    apply p.name arguments = p.apply arguments := by
  rw [apply, Primitive.ofName?_name]

theorem apply_of_unknown {name : String} (h : ∀ p : Primitive, p.name ≠ name)
    (arguments : List Value) :
    apply name arguments =
      .error (.unknownProcedure "Unrecognized primitive function args" name) := by
  unfold apply
  split
  · next p hname => exact absurd (Primitive.name_of_ofName? hname) (h p)
  · rfl

variable {name : String} {arguments : List Value}

theorem Rejection.apply_eq_error {failure : Failure} (h : Rejection name arguments failure) :
    apply name arguments = .error failure := by
  cases h with
  | unknown hunknown => exact apply_of_unknown hunknown arguments
  | count hname hcount =>
      rw [← hname, apply_name]
      exact Primitive.apply_of_not_accepts hcount
  | operand hname haccepts hrole hblames =>
      rw [← hname, apply_name]
      exact Primitive.apply_of_blames haccepts hrole hblames
  | zeroDivisor hname haccepts hsuited hzero =>
      rw [← hname, apply_name]
      exact Primitive.apply_of_dividesByZero haccepts hsuited hzero

/-- Whether an application has nothing against it. -/
def Admitted (name : String) (arguments : List Value) : Prop :=
  ∃ p : Primitive, p.name = name ∧ p.Accepts arguments.length ∧ p.Suited arguments
    ∧ ¬p.DividesByZero arguments

theorem Admitted.exists_apply_eq_ok (h : Admitted name arguments) :
    ∃ v, apply name arguments = .ok v := by
  obtain ⟨p, rfl, haccepts, hsuited, hnonzero⟩ := h
  rw [apply_name]
  exact Primitive.exists_apply_eq_ok haccepts hsuited hnonzero

/-- An application is admitted, or there is a reason to reject it. -/
theorem admitted_or_rejection (name : String) (arguments : List Value) :
    Admitted name arguments ∨ ∃ failure, Rejection name arguments failure := by
  by_cases hname : ∃ p : Primitive, p.name = name
  · obtain ⟨p, hname⟩ := hname
    by_cases haccepts : p.Accepts arguments.length
    · rcases p.suited_or_blames arguments with hsuited | ⟨role, failure, hrole, hblames⟩
      · by_cases hzero : p.DividesByZero arguments
        · exact .inr ⟨_, .zeroDivisor hname haccepts hsuited hzero⟩
        · exact .inl ⟨p, hname, haccepts, hsuited, hzero⟩
      · exact .inr ⟨failure, .operand hname haccepts hrole hblames⟩
    · exact .inr ⟨_, .count hname haccepts⟩
  · exact .inr ⟨_, .unknown fun p hp => hname ⟨p, hp⟩⟩

theorem apply_eq_error_iff {failure : Failure} :
    apply name arguments = .error failure ↔ Rejection name arguments failure := by
  constructor
  · intro h
    rcases admitted_or_rejection name arguments with hadmitted | ⟨failure', hrejection⟩
    · obtain ⟨v, hv⟩ := hadmitted.exists_apply_eq_ok
      rw [hv] at h
      cases h
    · rw [hrejection.apply_eq_error] at h
      cases h
      exact hrejection
  · exact Rejection.apply_eq_error

/-- An application fails exactly as there is a first reason to reject it:
an unknown name, a number of arguments that is not taken, the first
argument from the left that does not suit, or a divisor that counts as
zero. It has a value exactly if there is none of these. -/
theorem apply_fails_for_first_reason (name : String) (arguments : List Value) :
    (∀ failure, apply name arguments = .error failure ↔ Rejection name arguments failure)
      ∧ ((∃ v, apply name arguments = .ok v) ↔ Admitted name arguments) := by
  refine ⟨fun failure => apply_eq_error_iff, ?_, Admitted.exists_apply_eq_ok⟩
  rintro ⟨v, hv⟩
  rcases admitted_or_rejection name arguments with hadmitted | ⟨failure, hrejection⟩
  · exact hadmitted
  · rw [hrejection.apply_eq_error] at hv
    cases hv

/-- A value of the wrong kind at the end counts before a zero in front of
it. -/
example : apply "quotient" [.int 0, .list [.str " 0x"], .bool true] =
    .error (.mismatch "number" (.bool true)) := by rfl

end PocketScheme
