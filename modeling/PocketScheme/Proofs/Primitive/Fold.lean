/-
Arithmetic on more than two numbers.

An operation combines its first number with the others one after
another. Five of the seven take the others as one number: adding or
subtracting them one by one is adding or subtracting their sum,
multiplying or dividing by them one by one is doing so by their product
(`TakesAsOne`). It is enough that this is true of two steps, the second
with the whole of all later numbers; that it is true of any number of
steps is an induction on the others, with the first number left general
as it is a result of earlier steps.

For the quotients the two steps are a matter of rounding twice. Toward
zero it does no harm: the absolute values are those of natural numbers,
where it is true, and the signs come off one by one (`tdiv_tdiv`). Down
it does no harm if the second divisor is not negative (`fdiv_fdiv`); a
negative one turns the side round on which the first result was rounded.

Sums and products are made of all numbers alike, the first one included,
so they depend on neither order nor grouping (`Gathers`).
-/
import Mathlib.Algebra.BigOperators.Group.List.Basic
import Mathlib.Algebra.BigOperators.Ring.List
import Mathlib.Algebra.Order.BigOperators.GroupWithZero.List
import Mathlib.Algebra.Order.Ring.Int
import Mathlib.Data.Int.DivMod
import Mathlib.Data.List.Perm.Basic
import PocketScheme.Proofs.Primitive.Division

namespace PocketScheme

namespace Arithmetic

-- ============================================================= rounding

/-- Rounding toward zero may be put off from one quotient to the next. -/
theorem tdiv_tdiv (a b c : Int) : (a.tdiv b).tdiv c = a.tdiv (b * c) := by
  have hnat (m n k : Nat) : ((m : Int).tdiv n).tdiv k = (m : Int).tdiv (n * k) := by
    rw [← Int.natCast_mul, ← Int.ofNat_tdiv, ← Int.ofNat_tdiv, ← Int.ofNat_tdiv,
      Nat.div_div_eq_div_mul]
  obtain ⟨m, hm⟩ := Int.eq_nat_or_neg a
  obtain ⟨n, hn⟩ := Int.eq_nat_or_neg b
  obtain ⟨k, hk⟩ := Int.eq_nat_or_neg c
  rcases hm with rfl | rfl <;> rcases hn with rfl | rfl <;> rcases hk with rfl | rfl <;>
    simp only [Int.neg_tdiv, Int.tdiv_neg, Int.neg_mul, Int.mul_neg, Int.neg_neg, hnat]

/-- Rounding down may be put off to a divisor that is not negative. -/
theorem fdiv_fdiv (a b : Int) {c : Int} (hc : 0 ≤ c) : (a.fdiv b).fdiv c = a.fdiv (b * c) := by
  by_cases hb : 0 ≤ b
  · exact Int.fdiv_fdiv_eq_fdiv_mul a hb hc
  · -- with both signs changed the first divisor is positive
    rw [← Int.neg_fdiv_neg a b, ← Int.neg_fdiv_neg a (b * c), ← Int.neg_mul]
    exact Int.fdiv_fdiv_eq_fdiv_mul (-a) (by omega) hc

-- ====================================================== others as one

/-- Whether an operation takes numbers as one: to combine a number with
another and then with the whole of some more is to combine it with the
whole of them all. The numbers after the first have to be fit for it. -/
structure TakesAsOne (op : Arithmetic) (whole : List Int → Int) (Fit : Int → Prop) : Prop where
  combine_nil (a : Int) : op.combine a (whole []) = some a
  combine_cons (a b : Int) {numbers : List Int} (h : ∀ c ∈ numbers, Fit c) :
    (op.combine a b >>= fun c => op.combine c (whole numbers)) =
      op.combine a (whole (b :: numbers))

/-- One after another, numbers that are taken as one do what their whole
does. -/
theorem TakesAsOne.foldlM_combine {op : Arithmetic} {whole : List Int → Int} {Fit : Int → Prop}
    (h : op.TakesAsOne whole Fit) {numbers : List Int} (hfit : ∀ c ∈ numbers.tail, Fit c)
    (a : Int) : numbers.foldlM op.combine a = op.combine a (whole numbers) := by
  induction numbers generalizing a with
  | nil => exact (h.combine_nil a).symm
  | cons b numbers ih =>
      have hlater : ∀ c ∈ numbers.tail, Fit c := fun c hc => hfit c (List.mem_of_mem_tail hc)
      have hstep : (op.combine a b >>= fun c => op.combine c (whole numbers)) =
          op.combine a (whole (b :: numbers)) := h.combine_cons a b hfit
      rw [List.foldlM_cons, ← hstep]
      exact bind_congr fun c => ih hlater c

theorem takesAsOne_add : add.TakesAsOne List.sum fun _ => True where
  combine_nil a := congrArg some (Int.add_zero a)
  combine_cons a b numbers _ := by
    show some (a + b + numbers.sum) = some (a + (b :: numbers).sum)
    rw [List.sum_cons, Int.add_assoc]

theorem takesAsOne_subtract : subtract.TakesAsOne List.sum fun _ => True where
  combine_nil a := congrArg some (Int.sub_zero a)
  combine_cons a b numbers _ := by
    show some (a - b - numbers.sum) = some (a - (b :: numbers).sum)
    rw [List.sum_cons, Int.sub_sub]

theorem takesAsOne_multiply : multiply.TakesAsOne List.prod fun _ => True where
  combine_nil a := congrArg some (Int.mul_one a)
  combine_cons a b numbers _ := by
    show some (a * b * numbers.prod) = some (a * (b :: numbers).prod)
    rw [List.prod_cons, Int.mul_assoc]

/-- A division takes its divisors as their product if it may be done in
two steps. A zero among them is a zero of the product, so neither is
divided by. -/
theorem takesAsOne_of_division {op : Arithmetic} {divide : Int → Int → Int} {Fit : Int → Prop}
    (hop : ∀ a b, op.combine a b = if b = 0 then none else some (divide a b))
    (hone : ∀ a, divide a 1 = a)
    (htwice : ∀ a b {numbers : List Int}, (∀ c ∈ numbers, Fit c) →
      divide (divide a b) numbers.prod = divide a (b * numbers.prod)) :
    op.TakesAsOne List.prod Fit where
  combine_nil a := by
    show op.combine a 1 = some a
    rw [hop, if_neg Int.one_ne_zero, hone]
  combine_cons a b numbers hfit := by
    rw [hop a b, hop a, List.prod_cons]
    by_cases hb : b = 0
    · rw [if_pos hb, if_pos (by rw [hb, Int.zero_mul])]
      rfl
    · rw [if_neg hb]
      show op.combine (divide a b) numbers.prod = _
      rw [hop, htwice a b hfit]
      by_cases hproduct : numbers.prod = 0
      · rw [if_pos hproduct, if_pos (by rw [hproduct, Int.mul_zero])]
      · rw [if_neg hproduct, if_neg (Int.mul_ne_zero hb hproduct)]

theorem takesAsOne_quotient : quotient.TakesAsOne List.prod fun _ => True := by
  have hop (a b : Int) : quotient.combine a b =
      if b = 0 then none else some (quotientTowardZero a b) := rfl
  refine takesAsOne_of_division hop (fun a => ?_) fun a b numbers _ => ?_
  · rw [quotientTowardZero_eq_tdiv, Int.tdiv_one]
  · rw [quotientTowardZero_eq_tdiv, quotientTowardZero_eq_tdiv, quotientTowardZero_eq_tdiv,
      tdiv_tdiv]

theorem takesAsOne_divide : divide.TakesAsOne List.prod (0 < ·) := by
  refine takesAsOne_of_division (fun _ _ => rfl) Int.fdiv_one fun a b numbers hfit => ?_
  exact fdiv_fdiv a b (List.prod_nonneg fun c hc => Int.le_of_lt (hfit c hc))

-- ====================================================== all numbers alike

/-- Whether an operation gathers numbers: what it makes of them is their
whole, and the whole depends on neither their order nor their
grouping. -/
structure Gathers (op : Arithmetic) (whole : List Int → Int) : Prop where
  takesAsOne : op.TakesAsOne whole fun _ => True
  combine_whole (a : Int) (numbers : List Int) :
    op.combine a (whole numbers) = some (whole (a :: numbers))
  whole_perm {numbers numbers' : List Int} : numbers.Perm numbers' → whole numbers = whole numbers'
  whole_pair (before : List Int) (m n : Int) (after : List Int) :
    whole (before ++ whole [m, n] :: after) = whole (before ++ m :: n :: after)

theorem gathers_add : add.Gathers List.sum where
  takesAsOne := takesAsOne_add
  combine_whole _ _ := rfl
  whole_perm h := h.sum_eq
  whole_pair before m n after := by
    simp only [List.sum_append, List.sum_cons, List.sum_nil]
    omega

theorem gathers_multiply : multiply.Gathers List.prod where
  takesAsOne := takesAsOne_multiply
  combine_whole _ _ := rfl
  whole_perm h := h.prod_eq
  whole_pair before m n after := by
    simp only [List.prod_append, List.prod_cons, List.prod_nil, Int.mul_one, Int.mul_assoc]

/-- The two operations that gather numbers, by their names. -/
theorem exists_gathers {name : String} {whole : List Int → Int}
    (h : (name, whole) ∈ [("+", List.sum), ("*", List.prod)]) :
    ∃ op : Arithmetic, op.name = name ∧ op.Gathers whole := by
  rcases List.mem_cons.1 h with hsum | hproduct
  · cases hsum
    exact ⟨.add, rfl, gathers_add⟩
  · cases List.mem_singleton.1 hproduct
    exact ⟨.multiply, rfl, gathers_multiply⟩

-- ============================================================= arguments

section Arguments

variable {op : Arithmetic} {whole : List Int → Int} {arguments : List Value} {numbers : List Int}

/-- Arguments that count as numbers have the value of the numbers
combined. -/
theorem apply_of_foldlM {first : Value} {others : List Value} {a c : Int} (hcount : others ≠ [])
    (hfirst : first.asNumber = .ok a) (hothers : others.map Value.asNumber = numbers.map .ok)
    (h : numbers.foldlM op.combine a = some c) :
    PocketScheme.apply op.name (first :: others) = .ok (.int c) := by
  obtain ⟨second, more, rfl⟩ := List.exists_cons_of_ne_nil hcount
  have happly : op.apply (first :: second :: more) = .ok (.int c) := by
    rw [apply_of_numbers hfirst (mapM_eq_ok_iff.2 hothers), h]
  exact (apply_name (.arithmetic op) _).trans happly

/-- Arguments in another order count as the numbers in another order. -/
theorem exists_numbers_of_perm {arguments' : List Value}
    (hnumbers : arguments.map Value.asNumber = numbers.map .ok)
    (h : arguments'.Perm arguments) :
    ∃ numbers' : List Int, arguments'.map Value.asNumber = numbers'.map .ok
      ∧ numbers'.Perm numbers := by
  have hsuits : ∀ v ∈ arguments', Role.number.Suits v := by
    intro v hv
    have hmem : v.asNumber ∈ numbers.map .ok := hnumbers ▸ List.mem_map_of_mem (h.mem_iff.1 hv)
    obtain ⟨n, -, hn⟩ := List.mem_map.1 hmem
    exact (coerces_asNumber.ok_iff v).1 ⟨n, hn.symm⟩
  obtain ⟨numbers', hresults⟩ := coerces_asNumber.mapM_of_suits hsuits
  have hnumbers' := mapM_eq_ok_iff.1 hresults
  have hinjective : Function.Injective (Except.ok : Int → Except Failure Int) :=
    fun _ _ => Except.ok.inj
  refine ⟨numbers', hnumbers', ?_⟩
  rw [← List.map_perm_map_iff hinjective, ← hnumbers', ← hnumbers]
  exact h.map _

/-- Arguments of which none counts as zero make a product that is not
zero. -/
theorem prod_ne_zero (hnumbers : arguments.map Value.asNumber = numbers.map .ok)
    (h : ∀ v ∈ arguments, v.asNumber ≠ .ok 0) : numbers.prod ≠ 0 := by
  refine List.prod_ne_zero fun hzero => ?_
  obtain ⟨v, hv, hcounts⟩ := (mem_iff_of_mapM_eq_ok (mapM_eq_ok_iff.2 hnumbers)).1 hzero
  exact h v hv hcounts

theorem pos_of_mem (hnumbers : arguments.map Value.asNumber = numbers.map .ok)
    (h : ∀ v ∈ arguments, ∃ n, v.asNumber = .ok n ∧ 0 < n) : ∀ c ∈ numbers, 0 < c := by
  intro c hc
  obtain ⟨v, hv, hcounts⟩ := (mem_iff_of_mapM_eq_ok (mapM_eq_ok_iff.2 hnumbers)).1 hc
  obtain ⟨n, hn, hpos⟩ := h v hv
  cases hcounts.symm.trans hn
  exact hpos

namespace Gathers

variable (h : op.Gathers whole)
include h

/-- What gathers numbers has their whole for a value. -/
theorem apply_eq (hcount : 2 ≤ arguments.length)
    (hnumbers : arguments.map Value.asNumber = numbers.map .ok) :
    PocketScheme.apply op.name arguments = .ok (.int (whole numbers)) := by
  match arguments, hcount with
  | first :: second :: more, _ =>
      obtain ⟨a, rest, rfl, hfirst, hothers⟩ := List.map_eq_cons_iff.1 hnumbers.symm
      refine apply_of_foldlM (List.cons_ne_nil second more) hfirst.symm hothers.symm ?_
      rw [h.takesAsOne.foldlM_combine (fun _ _ => trivial), h.combine_whole]

/-- Two neighbours may be gathered before the rest is. -/
theorem apply_pair {before after : List Value} {v w : Value}
    (hcount : 0 < before.length + after.length)
    (hnumbers : (before ++ v :: w :: after).map Value.asNumber = numbers.map .ok) :
    ∃ part, PocketScheme.apply op.name [v, w] = .ok part
      ∧ PocketScheme.apply op.name (before ++ part :: after) = .ok (.int (whole numbers)) := by
  rw [List.map_append] at hnumbers
  obtain ⟨front, back, rfl, hfront, hback⟩ := List.map_eq_append_iff.1 hnumbers.symm
  obtain ⟨m, back, rfl, hm, hback⟩ := List.map_eq_cons_iff.1 hback
  obtain ⟨n, back, rfl, hn, hback⟩ := List.map_eq_cons_iff.1 hback
  refine ⟨.int (whole [m, n]), ?_, ?_⟩
  · refine h.apply_eq (Nat.le_refl 2) ?_
    rw [List.map_cons, List.map_cons, ← hm, ← hn]
    rfl
  · rw [← h.whole_pair]
    refine h.apply_eq ?_ ?_
    · rw [List.length_append, List.length_cons]
      omega
    · rw [List.map_append, List.map_append, List.map_cons, List.map_cons, hfront, hback]
      rfl

/-- An operation that takes numbers as what is gathered of them may be
given just that. -/
theorem apply_others {op' : Arithmetic} {Fit : Int → Prop} (htakes : op'.TakesAsOne whole Fit)
    {first : Value} {others : List Value} {a c : Int} (hcount : 2 ≤ others.length)
    (hfirst : first.asNumber = .ok a) (hothers : others.map Value.asNumber = numbers.map .ok)
    (hfit : ∀ c ∈ numbers.tail, Fit c) (hc : op'.combine a (whole numbers) = some c) :
    ∃ part result, PocketScheme.apply op.name others = .ok part
      ∧ PocketScheme.apply op'.name (first :: others) = .ok result
      ∧ PocketScheme.apply op'.name [first, part] = .ok result := by
  have hne : others ≠ [] := by
    rintro rfl
    cases hcount
  refine ⟨.int (whole numbers), .int c, h.apply_eq hcount hothers, ?_, ?_⟩
  · refine apply_of_foldlM hne hfirst hothers ?_
    rw [htakes.foldlM_combine hfit, hc]
  · have hpart : [Value.int (whole numbers)].map Value.asNumber = [whole numbers].map .ok := rfl
    refine apply_of_foldlM (List.cons_ne_nil _ _) hfirst hpart ?_
    rw [List.foldlM_cons, hc]
    rfl

end Gathers

end Arguments

end Arithmetic

open Arithmetic (exists_gathers exists_numbers_of_perm prod_ne_zero pos_of_mem gathers_add
  gathers_multiply takesAsOne_subtract takesAsOne_quotient takesAsOne_divide)

/-- Of three or more arguments that count as numbers, the sum and the
product are those of the numbers. They are the same in every order of
the arguments, and with two neighbours replaced by what they make. To
take all arguments but the first from it is to take their sum; to divide
by them, none of which is zero, is to divide by their product, if the
quotients are rounded toward zero, and if they are rounded down and all
but the first divisor are positive. -/
theorem folds_take_numbers_as_one {first second : Value} {more : List Value}
    {numbers : List Int} (hmore : more ≠ [])
    (hnumbers : (first :: second :: more).map Value.asNumber = numbers.map .ok) :
    (∀ name whole, (name, whole) ∈ [("+", List.sum), ("*", List.prod)] →
        (∀ arguments, arguments.Perm (first :: second :: more) →
          apply name arguments = .ok (.int (whole numbers)))
        ∧ ∀ before v w after, before ++ v :: w :: after = first :: second :: more →
            ∃ part, apply name [v, w] = .ok part
              ∧ apply name (before ++ part :: after) = .ok (.int (whole numbers)))
      ∧ (∃ sum difference, apply "+" (second :: more) = .ok sum
          ∧ apply "-" (first :: second :: more) = .ok difference
          ∧ apply "-" [first, sum] = .ok difference)
      ∧ ((∀ v ∈ second :: more, v.asNumber ≠ .ok 0) →
          ∃ product quotient, apply "*" (second :: more) = .ok product
            ∧ apply "quotient" (first :: second :: more) = .ok quotient
            ∧ apply "quotient" [first, product] = .ok quotient)
      ∧ (second.asNumber ≠ .ok 0 → (∀ v ∈ more, ∃ n, v.asNumber = .ok n ∧ 0 < n) →
          ∃ product quotient, apply "*" (second :: more) = .ok product
            ∧ apply "/" (first :: second :: more) = .ok quotient
            ∧ apply "/" [first, product] = .ok quotient) := by
  have hlength : 0 < more.length := List.length_pos_iff.2 hmore
  have hcount : 2 ≤ (second :: more).length := Nat.succ_le_succ hlength
  obtain ⟨a, divisors, rfl, hfirst, hothers⟩ := List.map_eq_cons_iff.1 hnumbers.symm
  obtain ⟨b, later, rfl, hsecond, hlater⟩ := List.map_eq_cons_iff.1 hothers
  refine ⟨fun name whole hlaw => ?_, ?_, fun hnonzero => ?_, fun hb hpositive => ?_⟩
  · obtain ⟨op, rfl, hgathers⟩ := exists_gathers hlaw
    constructor
    · intro arguments hperm
      obtain ⟨numbers', hnumbers', hperm'⟩ := exists_numbers_of_perm hnumbers hperm
      rw [← hgathers.whole_perm hperm']
      refine hgathers.apply_eq ?_ hnumbers'
      rw [hperm.length_eq, List.length_cons]
      omega
    · intro before v w after hsplit
      have hlengths := congrArg List.length hsplit
      rw [List.length_append, List.length_cons, List.length_cons, List.length_cons,
        List.length_cons] at hlengths
      exact hgathers.apply_pair (by omega) (hsplit ▸ hnumbers)
  · exact gathers_add.apply_others takesAsOne_subtract hcount hfirst.symm hothers.symm
      (fun _ _ => trivial) rfl
  · exact gathers_multiply.apply_others takesAsOne_quotient hcount hfirst.symm hothers.symm
      (fun _ _ => trivial) (if_neg (prod_ne_zero hothers.symm hnonzero))
  · have hnonzero : ∀ v ∈ second :: more, v.asNumber ≠ .ok 0 := by
      refine List.forall_mem_cons.2 ⟨hb, fun v hv hzero => ?_⟩
      obtain ⟨n, hn, hpos⟩ := hpositive v hv
      cases hzero.symm.trans hn
      exact Int.lt_irrefl 0 hpos
    exact gathers_multiply.apply_others takesAsOne_divide hcount hfirst.symm hothers.symm
      (pos_of_mem hlater.symm hpositive) (if_neg (prod_ne_zero hothers.symm hnonzero))

/-- Of a number in two lists, a negative one in a list and a positive
one: quotients that are not exact, in two directions. -/
theorem folds_take_numbers_as_one_nested :
    [Value.int 2] ≠ []
      ∧ [Value.list [.list [.int 100]], .list [.int (-7)], .int 2].map Value.asNumber =
          [100, -7, 2].map .ok
      ∧ (∀ v ∈ [Value.list [.int (-7)], .int 2], v.asNumber ≠ .ok 0)
      ∧ (∀ v ∈ [Value.int 2], ∃ n, v.asNumber = .ok n ∧ 0 < n)
      ∧ apply "+" [.int 2, .list [.list [.int 100]], .list [.int (-7)]] = .ok (.int 95)
      ∧ (∃ part, apply "*" [.list [.int (-7)], .int 2] = .ok part
          ∧ apply "*" [.list [.list [.int 100]], part] = .ok (.int (-1400)))
      ∧ (∃ product quotient, apply "*" [.list [.int (-7)], .int 2] = .ok product
          ∧ apply "quotient" [.list [.list [.int 100]], .list [.int (-7)], .int 2] = .ok quotient
          ∧ apply "quotient" [.list [.list [.int 100]], product] = .ok quotient
          ∧ quotient = .int (-7))
      ∧ ∃ product quotient, apply "*" [.list [.int (-7)], .int 2] = .ok product
          ∧ apply "/" [.list [.list [.int 100]], .list [.int (-7)], .int 2] = .ok quotient
          ∧ apply "/" [.list [.list [.int 100]], product] = .ok quotient
          ∧ quotient = .int (-8) := by
  have hmore : [Value.int 2] ≠ [] := List.cons_ne_nil _ _
  have hnumbers : [Value.list [.list [.int 100]], .list [.int (-7)], .int 2].map Value.asNumber =
      [100, -7, 2].map .ok := rfl
  have hseven : (Value.list [.int (-7)]).asNumber ≠ .ok 0 := by
    intro h
    cases h
  have hnonzero : ∀ v ∈ [Value.list [.int (-7)], .int 2], v.asNumber ≠ .ok 0 := by
    refine List.forall_mem_cons.2 ⟨hseven, List.forall_mem_singleton.2 fun h => ?_⟩
    cases h
  have hpositive : ∀ v ∈ [Value.int 2], ∃ n, v.asNumber = .ok n ∧ 0 < n :=
    List.forall_mem_singleton.2 ⟨2, rfl, by decide⟩
  obtain ⟨hgathers, -, htoward, hdown⟩ := folds_take_numbers_as_one hmore hnumbers
  obtain ⟨hperm, -⟩ := hgathers "+" List.sum (.head _)
  obtain ⟨-, hpair⟩ := hgathers "*" List.prod (.tail _ (.head _))
  obtain ⟨p, q, hp, hq, hpq⟩ := htoward hnonzero
  obtain ⟨p', q', hp', hq', hpq'⟩ := hdown hseven hpositive
  have hrotated : [Value.int 2, .list [.list [.int 100]], .list [.int (-7)]].Perm
      [.list [.list [.int 100]], .list [.int (-7)], .int 2] :=
    (List.perm_append_singleton (Value.int 2) [_, _]).symm
  refine ⟨hmore, hnumbers, hnonzero, hpositive, hperm _ hrotated, hpair [_] _ _ [] rfl,
    ⟨p, q, hp, hq, hpq, ?_⟩, ⟨p', q', hp', hq', hpq', ?_⟩⟩
  · cases hq
    rfl
  · cases hq'
    rfl

/-- A negative divisor after the first: one by two is nothing, and stays
it, while one by minus two is rounded down to minus one. -/
example : apply "/" [.int 1, .int 2, .int (-1)] = .ok (.int 0)
    ∧ apply "/" [.int 1, .int (-2)] = .ok (.int (-1)) := by
  constructor <;> rfl

end PocketScheme
