/-
Decimal text of integers: digits without a leading zero, after a minus
sign for a number below zero.

Writing gives the one canonical text of a number; reading accepts any
run of digits, leading zeros included, and takes its positional value.
`read_render` says that reading undoes writing, at any length.

Converting all digits of a number at once is for short numbers. A long
one is converted in parts: a text is cut into halves (`parse`), a number
into the part that its last digits stand for and the rest (`format`).
Where a number is cut is a matter of speed, so writing is defined for
every way of cutting (`Cut`), and one of them is used.

A last reading finds the number at the front of a longer text and
ignores what follows it (`leading?`).
-/
import PocketScheme.Text.Blank

namespace PocketScheme.Text.Decimal

/-- The positional value of a run of digits. -/
def value (digits : List Char) : Nat := Nat.ofDigitChars 10 digits 0

/-- The canonical text of an integer. -/
def render : Int → List Char
  | .ofNat n => Nat.toDigits 10 n
  | .negSucc n => '-' :: Nat.toDigits 10 (n + 1)

/-- The integer written as a run of digits with an optional minus sign
in front. -/
def read : List Char → Int
  | '-' :: digits => -(value digits)
  | digits => value digits

-- ====================================================== long numbers

/-- The number of digits up to which they are converted at once. -/
def directLength : Nat := 4000

/-- What a one counts with a number of digits behind it. -/
def unit (width : Nat) : Nat := Nat.pow 10 width

theorem unit_pos (width : Nat) : 0 < unit width := Nat.pow_pos (by decide)

/-- The first number with more digits than that. -/
def directLimit : Nat := unit directLength

/-- The positional value of a run of digits. A long run is cut in the
middle. -/
def valueInParts (digits : List Char) : Nat :=
  if digits.length ≤ directLength then value digits
  else
    let front := digits.length / 2
    valueInParts (digits.take front) * unit (digits.length - front)
      + valueInParts (digits.drop front)
termination_by digits.length
decreasing_by
  all_goals
    simp only [directLength, List.length_take, List.length_drop] at *
    omega

/-- The integer written as a run of digits of any length, with an
optional minus sign in front. -/
def parse : List Char → Int
  | '-' :: digits => -(valueInParts digits)
  | digits => valueInParts digits

/-- About half the number of digits of a number, by the length of its
binary form: each binary digit counts as log 2 / log 10 of a decimal
one. -/
def halfLength (n : Nat) : Nat := (n.log2 + 1) * 30102999566398120 / unit 17 / 2

/-- The estimate is coarse, but a long number has some digits more. -/
theorem halfLength_bounds {n : Nat} (h : directLimit ≤ n) :
    0 < halfLength n ∧ unit (halfLength n) ≤ n := by
  have hn : n ≠ 0 := Nat.ne_of_gt (Nat.lt_of_lt_of_le (unit_pos directLength) h)
  have hbinary (width : Nat) : 2 ^ width ≤ unit width := Nat.pow_le_pow_left (by decide) width
  have hlong : directLength ≤ n.log2 :=
    (Nat.le_log2 hn).2 (Nat.le_trans (hbinary directLength) h)
  rw [directLength] at hlong
  have hunit : unit 17 = 100000000000000000 := rfl
  have hpos : 0 < halfLength n := by
    rw [halfLength, hunit]
    omega
  have hquarter : 4 * halfLength n ≤ n.log2 := by
    rw [halfLength, hunit]
    omega
  refine ⟨hpos, ?_⟩
  calc
    unit (halfLength n) ≤ (2 ^ 4) ^ halfLength n := Nat.pow_le_pow_left (by decide) _
    _ = 2 ^ (4 * halfLength n) := (Nat.pow_mul ..).symm
    _ ≤ 2 ^ n.log2 := Nat.pow_le_pow_right (by decide) hquarter
    _ ≤ n := Nat.log2_self_le hn

/-- A way to cut long numbers: how many of the last digits of a number
are its low part, which is at least one digit and not all of them. -/
structure Cut where
  low : Nat → Nat
  low_pos : ∀ {n}, directLimit ≤ n → 0 < low n
  low_lt : ∀ {n}, directLimit ≤ n → low n < (Nat.toDigits 10 n).length

namespace Cut

variable (cut : Cut)

/-- The number that is not low has a digit left. -/
theorem unit_low_le {n : Nat} (h : directLimit ≤ n) : unit (cut.low n) ≤ n := by
  have hlength := cut.low_lt h
  rw [← Nat.not_le, Nat.length_toDigits_le_iff (by decide) (cut.low_pos h)] at hlength
  exact Nat.not_lt.1 hlength

/-- The digits of a number. Of a long number the digits of the low part
are filled with zeros to their number. -/
def digits (n : Nat) : List Char :=
  if _h : n < directLimit then Nat.toDigits 10 n
  else
    let low := cut.low n
    digits (n / unit low) ++ (digits (n % unit low)).leftpad low '0'
termination_by n
decreasing_by
  · have hunit := cut.unit_low_le (Nat.not_lt.1 _h)
    have hone : 1 < unit (cut.low n) :=
      Nat.one_lt_pow (Nat.ne_of_gt (cut.low_pos (Nat.not_lt.1 _h))) (by decide)
    exact Nat.div_lt_self (by omega) hone
  · have hunit := cut.unit_low_le (Nat.not_lt.1 _h)
    exact Nat.lt_of_lt_of_le (Nat.mod_lt n (unit_pos (cut.low n))) hunit

/-- The canonical text of an integer of any size. -/
def format : Int → List Char
  | .ofNat n => cut.digits n
  | .negSucc n => '-' :: cut.digits (n + 1)

/-- The cut about in the middle. -/
def middle : Cut where
  low n := halfLength n
  low_pos h := (halfLength_bounds h).1
  low_lt h := by
    obtain ⟨hpos, hunit⟩ := halfLength_bounds h
    rw [← Nat.not_le, Nat.length_toDigits_le_iff (by decide) hpos]
    exact Nat.not_lt.2 hunit

end Cut

/-- The canonical text of an integer of any size. -/
def format (n : Int) : List Char := Cut.middle.format n

-- ================================================ numbers in longer texts

/-- The integer at the front of a text: blanks, an optional minus sign
directly before at least one digit, as many digits as there are. What
follows is ignored; without a digit in place there is no number. -/
def leading? (text : List Char) : Option Int :=
  match stripFront text with
  | '-' :: rest => (magnitude? rest).map fun n => -(n : Int)
  | rest => (magnitude? rest).map fun n => (n : Int)
where
  /-- The value of the digits at the front, if there is one. -/
  magnitude? (text : List Char) : Option Nat :=
    match text.takeWhile Char.isDigit with
    | [] => none
    | digits => some (valueInParts digits)

/-- The digits of a number have its value. -/
@[simp] theorem value_toDigits (n : Nat) : value (Nat.toDigits 10 n) = n :=
  Nat.ofDigitChars_ten_toDigits

/-- No run of digits starts with a minus sign. -/
theorem toDigits_ne_minus_cons (n : Nat) (rest : List Char) :
    Nat.toDigits 10 n ≠ '-' :: rest := by
  intro h
  have : ('-' : Char).isDigit = true :=
    Nat.isDigit_of_mem_toDigits (b := 10) (n := n) (by decide) (by decide) (by simp [h])
  exact absurd this (by decide)

/-- Reading undoes writing. -/
@[simp] theorem read_render (n : Int) : read (render n) = n := by
  cases n with
  | ofNat n =>
    simp only [render, read]
    split
    · rename_i h
      exact absurd h (toDigits_ne_minus_cons n _)
    · simp
  | negSucc n =>
    simp only [render, read, value_toDigits]
    omega

end PocketScheme.Text.Decimal
