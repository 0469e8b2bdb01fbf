/-
The two ways to divide, and what one has to do with the other.

To divide is to take a multiple of the divisor from the dividend so that
what is left is closer to zero than the divisor (`IsDivision`). If
something is left, there are two multiples that do this, one on each side
of the dividend, and the sign of what is left tells them apart. A
quotient rounded down leaves a remainder with the sign of the divisor,
and it is the only one that does (`floor_iff`); one rounded toward zero
leaves a remainder with the sign of the dividend. So the two are one
division if the signs are equal or nothing is left, and otherwise the
next lower quotient makes the other of the one.

That rounding toward zero may go by the absolute values and put the sign
to the quotient afterwards (`quotientTowardZero_eq_tdiv`) is a matter of
the four pairs of signs, where zero goes with the positive numbers.
-/
import PocketScheme.Proofs.Evaluation.Rejection

namespace PocketScheme

/-- Whether a divisor goes into a number so many times and leaves so
much, which is closer to zero than the divisor. -/
def IsDivision (a b q r : Int) : Prop :=
  a = b * q + r ∧ r.natAbs < b.natAbs

-- ================================================================ signs

/-- A number is zero or of the sign of another if it is on no other side
of zero. -/
theorem eq_zero_or_sign_eq_iff {r a : Int} :
    r = 0 ∨ r.sign = a.sign ↔ (0 < r → 0 < a) ∧ (r < 0 → a < 0) := by
  rcases Int.lt_trichotomy r 0 with hr | rfl | hr
  · rw [Int.sign_eq_neg_one_of_neg hr, eq_comm (a := -1), Int.sign_eq_neg_one_iff_neg]
    omega
  · simp
  · rw [Int.sign_eq_one_of_pos hr, eq_comm (a := 1), Int.sign_eq_one_iff_pos]
    omega

-- ======================================================= toward zero

section TowardZero

open Arithmetic

/-- Of numbers that are not negative, both quotients are one. -/
theorem fdiv_natAbs (a b : Int) : Int.fdiv a.natAbs b.natAbs = Int.tdiv a.natAbs b.natAbs := by
  rw [Int.fdiv_eq_ediv_of_nonneg _ (Int.natCast_nonneg _),
    Int.tdiv_eq_ediv_of_nonneg (Int.natCast_nonneg _)]

/-- The quotient of the absolute values with its sign is the truncated
one. -/
theorem quotientTowardZero_eq_tdiv (a b : Int) : quotientTowardZero a b = a.tdiv b := by
  show (if (a < 0) = (b < 0) then Int.fdiv a.natAbs b.natAbs
    else -Int.fdiv a.natAbs b.natAbs) = a.tdiv b
  rw [fdiv_natAbs]
  by_cases ha : a < 0
  · rw [Int.ofNat_natAbs_of_nonpos (Int.le_of_lt ha)]
    by_cases hb : b < 0
    · rw [if_pos (by simp [ha, hb]), Int.ofNat_natAbs_of_nonpos (Int.le_of_lt hb),
        Int.neg_tdiv_neg]
    · rw [if_neg (by simp [ha, hb]), Int.natAbs_of_nonneg (Int.not_lt.1 hb), Int.neg_tdiv,
        Int.neg_neg]
  · rw [Int.natAbs_of_nonneg (Int.not_lt.1 ha)]
    by_cases hb : b < 0
    · rw [if_neg (by simp [ha, hb]), Int.ofNat_natAbs_of_nonpos (Int.le_of_lt hb), Int.tdiv_neg,
        Int.neg_neg]
    · rw [if_pos (by simp [ha, hb]), Int.natAbs_of_nonneg (Int.not_lt.1 hb)]

theorem remainderTowardZero_eq_tmod (a b : Int) : remainderTowardZero a b = a.tmod b := by
  rw [remainderTowardZero, quotientTowardZero_eq_tdiv, Int.tmod_def]

variable {a b : Int}

theorem isDivision_towardZero (hb : b ≠ 0) :
    IsDivision a b (quotientTowardZero a b) (remainderTowardZero a b) := by
  constructor
  · rw [remainderTowardZero]
    omega
  · rw [remainderTowardZero_eq_tmod, Int.natAbs_tmod]
    exact Nat.mod_lt _ (Int.natAbs_pos.2 hb)

/-- Rounding toward zero leaves something on the side of the dividend. -/
theorem sign_remainderTowardZero (a b : Int) :
    remainderTowardZero a b = 0 ∨ (remainderTowardZero a b).sign = a.sign := by
  rw [remainderTowardZero_eq_tmod, ← Int.sign_eq_zero_iff_zero, Int.sign_tmod]
  split
  · exact .inl rfl
  · exact .inr rfl

end TowardZero

-- =============================================================== down

variable {a b q r : Int}

/-- Rounding down is the division that leaves something on the side of
the divisor, if anything, and the only one. -/
theorem floor_iff (hb : b ≠ 0) :
    a.fdiv b = q ∧ a.fmod b = r ↔ IsDivision a b q r ∧ (r = 0 ∨ r.sign = b.sign) := by
  rw [eq_zero_or_sign_eq_iff]
  unfold IsDivision
  rcases Int.lt_or_gt_of_ne hb with hb | hb
  · rw [Int.fdiv_fmod_unique' hb]
    omega
  · rw [Int.fdiv_fmod_unique hb]
    omega

-- ================================================================= both

/-- A division that leaves something on the side of the dividend is the
one that rounds down if that is the side of the divisor, or nothing is
left. -/
theorem floor_of_sign_eq (hb : b ≠ 0) (h : IsDivision a b q r) (hr : r = 0 ∨ r.sign = a.sign)
    (hsame : r = 0 ∨ a.sign = b.sign) : a.fdiv b = q ∧ a.fmod b = r := by
  refine (floor_iff hb).2 ⟨h, ?_⟩
  rcases hsame with hzero | hsame
  · exact .inl hzero
  · rwa [← hsame]

/-- If it is the other side, the next lower quotient is the one that
rounds down. -/
theorem floor_of_sign_ne (hb : b ≠ 0) (h : IsDivision a b q r) (hr : r = 0 ∨ r.sign = a.sign)
    (hother : ¬(r = 0 ∨ a.sign = b.sign)) : a.fdiv b = q - 1 ∧ a.fmod b = r + b := by
  obtain ⟨ha, hless⟩ := h
  obtain ⟨hzero, hsign⟩ := not_or.1 hother
  have hside : ¬(r = 0 ∨ r.sign = b.sign) := by
    intro hsame
    exact hsign ((hr.resolve_left hzero).symm.trans (hsame.resolve_left hzero))
  rw [eq_zero_or_sign_eq_iff] at hside
  refine (floor_iff hb).2 ⟨⟨?_, ?_⟩, ?_⟩
  · rw [Int.mul_sub, ha]
    omega
  · omega
  · rw [eq_zero_or_sign_eq_iff]
    omega

/-- Two numbers are combined as they are. -/
theorem apply_of_combine (op : Arithmetic) {a b c : Int} (h : op.combine a b = some c) :
    apply op.name [.int a, .int b] = .ok (.int c) := by
  have hnumbers : [Value.int b].mapM Value.asNumber = .ok [b] := rfl
  have happly : op.apply [.int a, .int b] = .ok (.int c) := by
    rw [Arithmetic.apply_of_numbers rfl hnumbers, List.foldlM_cons, h]
    rfl
  exact (apply_name (.arithmetic op) _).trans happly

/-- Both pairs of divisions by a number that is not zero divide: the
quotient and the remainder make the dividend again, and the remainder is
closer to zero than the divisor. It is zero or has the sign of the
dividend after `quotient`, and that of the divisor after `/`. The pairs
agree if nothing is left or dividend and divisor have one sign, and
otherwise the second one has the next lower quotient. -/
theorem divisions_agree {a b : Int} (hb : b ≠ 0) :
    ∃ q r d m, apply "quotient" [.int a, .int b] = .ok (.int q)
      ∧ apply "remainder" [.int a, .int b] = .ok (.int r)
      ∧ apply "/" [.int a, .int b] = .ok (.int d)
      ∧ apply "mod" [.int a, .int b] = .ok (.int m)
      ∧ (a = b * q + r ∧ r.natAbs < b.natAbs ∧ (r = 0 ∨ r.sign = a.sign))
      ∧ (a = b * d + m ∧ m.natAbs < b.natAbs ∧ (m = 0 ∨ m.sign = b.sign))
      ∧ if r = 0 ∨ a.sign = b.sign then d = q ∧ m = r else d = q - 1 ∧ m = r + b := by
  have htoward := isDivision_towardZero (a := a) hb
  have hsign := sign_remainderTowardZero a b
  obtain ⟨hfloor, hside⟩ := (floor_iff (a := a) hb).1 ⟨rfl, rfl⟩
  refine ⟨_, _, _, _, apply_of_combine .quotient (if_neg hb),
    apply_of_combine .remainder (if_neg hb), apply_of_combine .divide (if_neg hb),
    apply_of_combine .modulo (if_neg hb), ⟨htoward.1, htoward.2, hsign⟩,
    ⟨hfloor.1, hfloor.2, hside⟩, ?_⟩
  split
  · next hsame => exact floor_of_sign_eq hb htoward hsign hsame
  · next hother => exact floor_of_sign_ne hb htoward hsign hother

/-- Of a negative dividend and a positive divisor, where the pairs
differ. -/
theorem divisions_agree_negative :
    (2 : Int) ≠ 0
      ∧ apply "quotient" [.int (-7), .int 2] = .ok (.int (-3))
      ∧ apply "/" [.int (-7), .int 2] = .ok (.int (-4))
      ∧ ∃ q r d m, apply "quotient" [.int (-7), .int 2] = .ok (.int q)
        ∧ apply "remainder" [.int (-7), .int 2] = .ok (.int r)
        ∧ apply "/" [.int (-7), .int 2] = .ok (.int d)
        ∧ apply "mod" [.int (-7), .int 2] = .ok (.int m)
        ∧ (-7 = 2 * q + r ∧ r.natAbs < 2 ∧ (r = 0 ∨ r.sign = -1))
        ∧ (-7 = 2 * d + m ∧ m.natAbs < 2 ∧ (m = 0 ∨ m.sign = 1))
        ∧ if r = 0 ∨ (-1 : Int) = 1 then d = q ∧ m = r else d = q - 1 ∧ m = r + 2 :=
  ⟨by decide, by rfl, by rfl, divisions_agree (a := -7) (b := 2) (by decide)⟩

end PocketScheme
