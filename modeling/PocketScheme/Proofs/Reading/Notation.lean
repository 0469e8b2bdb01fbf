/-
Decimal notation of any length: what is written of a number, what is
read of a text, and that the one undoes the other.

The notation itself is said without any conversion. A digit counts by its
place (`placeValue`), the canonical texts are zero and the runs of digits
with no zero in front, with or without a minus sign (`IsCanonical`), and
a numeral becomes canonical by leaving out the zeros that stand in front
and the sign of a zero (`trim`).

As long numbers are the same whether they are converted in parts or not,
all that is left to show is of runs of digits: zeros in front add nothing
to the value, and a run without them is the text of its value. Reading
and printing integers is then no more than this notation.
-/
import Mathlib.Algebra.Group.Nat.Defs
import PocketScheme.Proofs.Reading.RoundTrip
import PocketScheme.Proofs.Text.Numeral

namespace PocketScheme

namespace Text.Decimal

-- ======================================================== the notation

/-- The value of a run of digits: each counts by its place. -/
def placeValue : List Char → Nat
  | [] => 0
  | c :: more => (c.toNat - '0'.toNat) * 10 ^ more.length + placeValue more

/-- The number that a numeral stands for. -/
def numeralValue : List Char → Int
  | '-' :: digits => -(placeValue digits)
  | digits => placeValue digits

/-- The canonical texts of numbers: zero, and digits of which the first
is no zero, with an optional minus sign in front. -/
def IsCanonical (text : List Char) : Prop :=
  text = ['0'] ∨ ∃ digits, (text = digits ∨ text = '-' :: digits)
    ∧ Run Char.isDigit digits ∧ digits.head? ≠ some '0'

/-- A run of digits without the zeros in front. -/
def significant (digits : List Char) : List Char := digits.dropWhile (· == '0')

/-- A numeral without what is redundant in it: the zeros in front, unless
there is no other digit, and the minus sign if there is none. -/
def trim : List Char → List Char
  | '-' :: digits => if significant digits = [] then ['0'] else '-' :: significant digits
  | digits => if significant digits = [] then ['0'] else significant digits

theorem value_eq_placeValue (digits : List Char) : value digits = placeValue digits := by
  induction digits with
  | nil => rfl
  | cons c more ih =>
      have hone : value [c] = c.toNat - '0'.toNat := by simp [value, Nat.ofDigitChars_cons]
      have hunit : unit more.length = 10 ^ more.length := rfl
      rw [placeValue, ← ih, ← hone, ← hunit, ← value_append]
      rfl

-- ==================================================== digits that count

theorem value_significant (digits : List Char) : value (significant digits) = value digits := by
  have hzeros : ∀ zeros : List Char, (∀ c ∈ zeros, (c == '0') = true) → value zeros = 0 := by
    intro zeros h
    have hreplicate : zeros = List.replicate zeros.length '0' :=
      List.eq_replicate_iff.2 ⟨rfl, fun c hc => eq_of_beq (h c hc)⟩
    rw [hreplicate, value, Nat.ofDigitChars_replicate_zero, Nat.mul_zero]
  have hsplit : digits.takeWhile (· == '0') ++ significant digits = digits :=
    List.takeWhile_append_dropWhile
  have hfront := hzeros (digits.takeWhile (· == '0')) (List.all_eq_true.1 List.all_takeWhile)
  conv => rhs; rw [← hsplit, value_append, hfront, Nat.zero_mul, Nat.zero_add]

theorem head?_significant (digits : List Char) : (significant digits).head? ≠ some '0' := by
  intro hzero
  have hfront := List.head?_dropWhile_not (· == '0') digits
  rw [significant] at hzero
  rw [hzero] at hfront
  cases hfront

theorem run_significant {digits : List Char} (h : Run Char.isDigit digits)
    (hne : significant digits ≠ []) : Run Char.isDigit (significant digits) :=
  ⟨hne, fun c hc => h.2 c ((List.dropWhile_suffix _).subset hc)⟩

theorem significant_of_head? {digits : List Char} (h : digits.head? ≠ some '0') :
    significant digits = digits := by
  cases digits with
  | nil => rfl
  | cons c more =>
      have hc : ¬(c == '0') = true := fun heq => h (congrArg some (eq_of_beq heq))
      exact List.dropWhile_cons_of_neg hc

/-- A run of digits has a value whose text is the run without the zeros
in front. -/
theorem toDigits_value_eq {digits : List Char} (h : Run Char.isDigit digits) :
    Nat.toDigits 10 (value digits) =
      if significant digits = [] then ['0'] else significant digits := by
  rw [← value_significant]
  split
  · next hnone => rw [hnone]; rfl
  · next hsome => exact toDigits_value (run_significant h hsome) (head?_significant digits)

/-- A value is zero if no digit counts. -/
theorem value_eq_zero_iff {digits : List Char} (h : Run Char.isDigit digits) :
    value digits = 0 ↔ significant digits = [] := by
  constructor
  · intro hzero
    have htext := toDigits_value_eq h
    rw [hzero] at htext
    split at htext
    · next hnone => exact hnone
    · have hfront := head?_significant digits
      rw [← htext] at hfront
      exact absurd rfl hfront
  · intro hnone
    rw [← value_significant, hnone, value_nil]

-- ============================================================ numerals

theorem parse_eq_read (text : List Char) : parse text = read text := by
  unfold parse read
  simp only [valueInParts_eq_value]

theorem read_eq_numeralValue (text : List Char) : read text = numeralValue text := by
  unfold read
  split
  · rw [numeralValue, value_eq_placeValue]
  · next hminus => rw [numeralValue.eq_2 text hminus, value_eq_placeValue]

theorem render_neg {n : Nat} (h : 0 < n) : render (-(n : Int)) = '-' :: Nat.toDigits 10 n := by
  cases n with
  | zero => cases h
  | succ n => rfl

/-- A numeral is read as a number whose text is the numeral without what
is redundant. -/
theorem render_read {text : List Char} (h : IsNumeral text) : render (read text) = trim text := by
  rcases h with hrun | ⟨digits, rfl, hrun⟩
  · have htrim : trim text = if significant text = [] then ['0'] else significant text := by
      obtain ⟨c, body, rfl, hc, -⟩ := hrun.eq_cons
      unfold trim
      split
      · next heq => exact absurd (List.cons.inj heq).1 (ne_minus_of_isDigit hc)
      · rfl
    rw [read_of_run hrun, htrim, ← toDigits_value_eq hrun]
    rfl
  · have hread : read ('-' :: digits) = -(value digits : Int) := rfl
    rw [hread, trim]
    split
    · next hnone =>
        rw [(value_eq_zero_iff hrun).2 hnone]
        rfl
    · next hsome =>
        have hpos : 0 < value digits :=
          Nat.pos_of_ne_zero fun hzero => hsome ((value_eq_zero_iff hrun).1 hzero)
        rw [render_neg hpos, toDigits_value_eq hrun, if_neg hsome]

theorem isCanonical_render (n : Int) : IsCanonical (render n) := by
  have hdigits {n : Nat} (hn : 0 < n) :
      Run Char.isDigit (Nat.toDigits 10 n) ∧ (Nat.toDigits 10 n).head? ≠ some '0' :=
    ⟨⟨Nat.toDigits_ne_nil, fun c hc => isDigit_of_mem_toDigits hc⟩, head?_toDigits_ne_zero hn⟩
  cases n with
  | ofNat n =>
      cases n with
      | zero => exact .inl rfl
      | succ n => exact .inr ⟨_, .inl rfl, hdigits n.succ_pos⟩
  | negSucc n => exact .inr ⟨_, .inr rfl, hdigits n.succ_pos⟩

theorem IsCanonical.isNumeral {text : List Char} (h : IsCanonical text) : IsNumeral text := by
  rcases h with rfl | ⟨digits, rfl | rfl, hrun, -⟩
  · exact .inl (Run.cons (by decide) (by simp))
  · exact .inl hrun
  · exact .inr ⟨digits, rfl, hrun⟩

/-- Nothing in a canonical text is redundant. -/
theorem IsCanonical.trim_eq {text : List Char} (h : IsCanonical text) : trim text = text := by
  rcases h with rfl | ⟨digits, rfl | rfl, hrun, hfront⟩
  · rfl
  · rw [← render_read (.inl hrun), read_of_run hrun]
    exact toDigits_value hrun hfront
  · rw [trim, significant_of_head? hfront, if_neg hrun.1]

end Text.Decimal

open Text Text.Decimal

/-- Decimal conversion is exact at any length and however long numbers
are cut. The text written of a number is the one canonical text that is
read as the number. A numeral is read as the number that its digits stand
for by their places, and what is written of that is the numeral without
what is redundant. A source that is a run of digits has that value too,
and what is printed of an integer is that text. -/
theorem conversion_exact (cut : Cut) :
    (∀ n text, text = cut.format n ↔ IsCanonical text ∧ parse text = n)
      ∧ (∀ text, IsNumeral text →
          parse text = numeralValue text ∧ cut.format (parse text) = trim text)
      ∧ (∀ digits, Run Char.isDigit digits →
          PocketScheme.read digits = .ok (.int (placeValue digits)))
      ∧ ∀ n, (Value.int n).render = cut.format n := by
  refine ⟨fun n text => ⟨?_, ?_⟩, fun text h => ⟨?_, ?_⟩, fun digits h => ?_, fun n => ?_⟩
  · rintro rfl
    rw [cut.format_eq_render, parse_eq_read]
    exact ⟨isCanonical_render n, read_render n⟩
  · rintro ⟨hcanonical, rfl⟩
    rw [cut.format_eq_render, parse_eq_read, render_read hcanonical.isNumeral,
      hcanonical.trim_eq]
  · rw [parse_eq_read, read_eq_numeralValue]
  · rw [cut.format_eq_render, parse_eq_read, render_read h]
  · rw [← value_eq_placeValue]
    exact read_eq_ok_iff_spells.2 (.number h)
  · rw [cut.format_eq_render, Value.render_int]

end PocketScheme
