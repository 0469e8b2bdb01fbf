/-
Long numbers converted in parts: the parts change nothing.

The value of a text put together of two is that of the first, moved up
by the length of the second, and the value of the second (`value_append`).
So a text may be cut anywhere before its value is taken, and each half
may be cut again (`valueInParts_eq_value`).

In the other direction the parts of a number are each written with the
digits of its own, and the low part filled with zeros. What comes out is
a run of digits with the value of the number; that it starts with no zero
makes it the canonical one, since there is no other such run
(`toDigits_value`). It is here that both parts have to have a digit: the
high part for the digit in front, the low part because zero is written
with one digit and not with none.
-/
import PocketScheme.Proofs.Text.Classes
import PocketScheme.Text.Decimal

namespace PocketScheme.Text.Decimal

-- ============================================================== values

@[simp] theorem value_nil : value [] = 0 := rfl

/-- Digits after a text move its value up by their number. -/
theorem value_append (front back : List Char) :
    value (front ++ back) = value front * unit back.length + value back := by
  rw [value, Nat.ofDigitChars_append, Nat.ofDigitChars_eq_ofDigitChars_zero, Nat.mul_comm]
  rfl

/-- Zeros in front of a text do not change its value. -/
theorem value_leftpad (width : Nat) (digits : List Char) :
    value (digits.leftpad width '0') = value digits := by
  have hzeros (n : Nat) : value (List.replicate n '0') = 0 := by
    rw [value, Nat.ofDigitChars_replicate_zero, Nat.mul_zero]
  rw [List.leftpad, value_append, hzeros, Nat.zero_mul, Nat.zero_add]

/-- A text has one value, however it is cut. -/
@[simp] theorem valueInParts_eq_value (digits : List Char) :
    valueInParts digits = value digits := by
  fun_induction valueInParts digits with
  | case1 digits hshort => rfl
  | case2 digits hlong front ihfront ihback =>
      rw [ihfront, ihback, ← List.length_drop, ← value_append, List.take_append_drop]

-- ======================================================= canonical digits

/-- A digit is the character of a number below ten. -/
theorem exists_digitChar {c : Char} (h : c.isDigit = true) :
    ∃ d < 10, Nat.digitChar d = c ∧ c.toNat - '0'.toNat = d := by
  have hbounds : 48 ≤ c.toNat ∧ c.toNat ≤ 57 := by
    simpa [Char.isDigit, UInt32.le_iff_toNat_le] using h
  refine ⟨c.toNat - 48, by omega, ?_, rfl⟩
  apply Char.toNat_inj.1
  rw [Nat.toNat_digitChar_of_lt_ten (by omega)]
  omega

/-- Digits behind the text of a number make the text of a longer one. -/
theorem toDigits_append {digits : List Char} (h : ∀ c ∈ digits, c.isDigit = true) {n : Nat}
    (hn : 0 < n) : Nat.toDigits 10 n ++ digits = Nat.toDigits 10 (Nat.ofDigitChars 10 digits n) := by
  -- for any number in front: one digit after another becomes part of it
  induction digits generalizing n with
  | nil => rw [Nat.ofDigitChars_nil, List.append_nil]
  | cons c digits ih =>
      obtain ⟨hc, hdigits⟩ := List.forall_mem_cons.1 h
      obtain ⟨d, hd, rfl, hvalue⟩ := exists_digitChar hc
      rw [Nat.ofDigitChars_cons, hvalue, ← ih hdigits (by omega),
        ← Nat.toDigits_append_toDigits (by decide) hn hd, Nat.toDigits_of_lt_base hd]
      simp

/-- A run of digits with no zero in front is the text of its value. -/
theorem toDigits_value {digits : List Char} (h : Run Char.isDigit digits)
    (hfront : digits.head? ≠ some '0') : Nat.toDigits 10 (value digits) = digits := by
  obtain ⟨c, body, rfl, hc, hbody⟩ := h.eq_cons
  obtain ⟨d, hd, rfl, hvalue⟩ := exists_digitChar hc
  have hpos : 0 < d := by
    refine Nat.pos_of_ne_zero ?_
    rintro rfl
    exact hfront rfl
  rw [value, Nat.ofDigitChars_cons, hvalue, Nat.mul_zero, Nat.zero_add,
    ← toDigits_append hbody hpos, Nat.toDigits_of_lt_base hd]
  rfl

-- ============================================================= the parts

theorem isDigit_of_mem_toDigits {n : Nat} {c : Char} (h : c ∈ Nat.toDigits 10 n) :
    c.isDigit = true :=
  Nat.isDigit_of_mem_toDigits (by decide) (by decide) h

/-- No number but zero has a zero in front. -/
theorem head?_toDigits_ne_zero {n : Nat} (hn : 0 < n) :
    (Nat.toDigits 10 n).head? ≠ some '0' := by
  induction n using Nat.strongRecOn with
  | ind n ih =>
      rw [Nat.toDigits_eq_if (by decide)]
      split
      · next hsmall =>
          rintro hzero
          have hcode := congrArg Char.toNat (Option.some.inj hzero)
          rw [Nat.toNat_digitChar_of_lt_ten hsmall] at hcode
          have hzeroCode : ('0' : Char).toNat = 48 := rfl
          omega
      · next hlarge =>
          have hfront := ih (n / 10) (by omega) (by omega)
          obtain ⟨c, more, hmore⟩ := List.exists_cons_of_ne_nil (Nat.toDigits_ne_nil (n := n / 10) (b := 10))
          rw [hmore] at hfront ⊢
          exact hfront

/-- A high part that is not zero and a low part of a number of digits,
the low one filled with zeros, make the text of both. -/
theorem toDigits_append_leftpad {high low width : Nat} (hhigh : 0 < high) (hwidth : 0 < width)
    (hlow : low < unit width) :
    Nat.toDigits 10 high ++ (Nat.toDigits 10 low).leftpad width '0' =
      Nat.toDigits 10 (high * unit width + low) := by
  have hlength : ((Nat.toDigits 10 low).leftpad width '0').length = width := by
    rw [List.length_leftpad, Nat.max_eq_left]
    exact (Nat.length_toDigits_le_iff (by decide) hwidth).2 hlow
  have hdigits : ∀ c ∈ (Nat.toDigits 10 low).leftpad width '0', c.isDigit = true := by
    intro c hc
    rcases List.mem_append.1 hc with hzero | hdigit
    · rw [List.eq_of_mem_replicate hzero]
      decide
    · exact isDigit_of_mem_toDigits hdigit
  rw [toDigits_append hdigits hhigh, Nat.ofDigitChars_eq_ofDigitChars_zero, hlength]
  have hvalue := value_leftpad width (Nat.toDigits 10 low)
  rw [value_toDigits, value] at hvalue
  rw [hvalue, Nat.mul_comm]
  rfl

namespace Cut

variable (cut : Cut)

/-- However a number is cut, its digits are the canonical ones. -/
theorem digits_eq_toDigits (n : Nat) : cut.digits n = Nat.toDigits 10 n := by
  fun_induction cut.digits n with
  | case1 n hshort => rfl
  | case2 n hlong low ihhigh ihlow =>
      have hhigh : 0 < n / unit low :=
        Nat.div_pos (cut.unit_low_le (Nat.not_lt.1 hlong)) (unit_pos low)
      rw [ihhigh, ihlow, toDigits_append_leftpad hhigh (cut.low_pos (Nat.not_lt.1 hlong))
        (Nat.mod_lt n (unit_pos low)), Nat.mul_comm, Nat.div_add_mod]

theorem format_eq_render (n : Int) : cut.format n = render n := by
  cases n with
  | ofNat n => exact cut.digits_eq_toDigits n
  | negSucc n => exact congrArg ('-' :: ·) (cut.digits_eq_toDigits (n + 1))

end Cut

/-- An integer has one canonical text, whatever its size. -/
@[simp] theorem format_eq_render (n : Int) : format n = render n := Cut.middle.format_eq_render n

/-- Different integers have different texts. -/
theorem format_inj {m n : Int} : format m = format n ↔ m = n := by
  constructor
  · intro h
    rw [format_eq_render, format_eq_render] at h
    rw [← read_render m, h, read_render]
  · intro h
    rw [h]

/-- The text of an integer has digits and no other character than a minus
sign. -/
theorem not_mem_render {c : Char} (hdigit : c.isDigit = false) (hminus : c ≠ '-') (n : Int) :
    c ∉ render n := by
  have hdigits (m : Nat) : c ∉ Nat.toDigits 10 m := by
    intro hmem
    rw [isDigit_of_mem_toDigits hmem] at hdigit
    cases hdigit
  cases n with
  | ofNat n => exact hdigits n
  | negSucc n => exact List.not_mem_cons_of_ne_of_not_mem hminus (hdigits (n + 1))

end PocketScheme.Text.Decimal
