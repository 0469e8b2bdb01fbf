/-
What the operations on numbers see of their arguments: the numbers that
these count as.

Whether arguments are integers, strings that lead with numbers or lists
around such values, an operation coerces them first and goes on with the
numbers. So arguments that are coerced alike, to numbers or not at all,
give one value or failures of one category (`category_apply_congr`). The
failures themselves need not be equal, as they carry the arguments. An
integer counts as itself, and so does its text at the front of a string;
arguments that count as numbers are therefore coerced as these are.
-/
import PocketScheme.Proofs.Fault.Escape
import PocketScheme.Proofs.Reading.Notation

namespace PocketScheme

open Text

-- ============================================================ one number

/-- The text of a number at the front of a string counts as the number,
behind blanks and in front of anything but a digit. -/
theorem asNumber_format {blanks rest : List Char} (hblanks : ∀ c ∈ blanks, isBlank c = true)
    (hrest : Stops Char.isDigit rest) (n : Int) :
    (Value.str (.ofList (blanks ++ (Decimal.format n ++ rest)))).asNumber = .ok n := by
  have hnumeral : Decimal.IsNumeral (Decimal.render n) := (Decimal.isCanonical_render n).isNumeral
  have hleads : Decimal.Leads (blanks ++ (Decimal.render n ++ rest)) n :=
    ⟨blanks, _, rest, rfl, hblanks, hnumeral, hrest, Decimal.read_render n⟩
  rw [Value.asNumber_eq_ok_iff, Decimal.format_eq_render]
  exact .inr ⟨_, Value.core_of_ne_singleton (by simp), by rwa [String.toList_ofList]⟩

/-- A value that counts as no number is refused, and what is inside it is
named. -/
theorem asNumber_eq_mismatch {v : Value} (h : ∀ n, v.asNumber ≠ .ok n) :
    v.asNumber = .error (.mismatch "number" v.core) := by
  refine Value.asNumber_eq_error_iff.2 ⟨?_, rfl⟩
  intro hcounts
  obtain ⟨n, hn⟩ := hcounts
  exact h n (Value.asNumber_eq_ok_iff.2 hn)

-- =========================================================== all arguments

section Congruence

variable {arguments arguments' : List Value}

/-- Arithmetic depends on its arguments by what they count as. -/
theorem Arithmetic.category_apply_congr (op : Arithmetic)
    (h : arguments.map Value.asNumber = arguments'.map Value.asNumber) :
    (op.apply arguments).mapError Failure.category =
      (op.apply arguments').mapError Failure.category := by
  cases arguments with
  | nil =>
      obtain rfl := List.map_eq_nil_iff.1 h.symm
      rfl
  | cons first others =>
      obtain ⟨first', others', rfl, hfirst, hothers⟩ := List.map_eq_cons_iff.1 h.symm
      cases others with
      | nil =>
          obtain rfl := List.map_eq_nil_iff.1 hothers
          rfl
      | cons second more =>
          obtain ⟨second', more', rfl, -, -⟩ := List.map_eq_cons_iff.1 hothers
          rw [apply, apply, hfirst, mapM_congr_of_map_eq hothers]
          refine mapError_bind_congr _ fun number => mapError_bind_congr _ fun numbers => ?_
          -- both fail here, or neither does: the arguments are only named
          cases numbers.foldlM op.combine number with
          | some result => rfl
          | none => rfl

/-- A test of two arguments depends on them by what they are taken
for. -/
theorem testTwo_category_congr {α : Type} {coerce : Value → Except Failure α}
    (test : α → α → Bool) (h : arguments.map coerce = arguments'.map coerce) :
    (testTwo coerce test arguments).mapError Failure.category =
      (testTwo coerce test arguments').mapError Failure.category := by
  have hlength : arguments.length = arguments'.length := by
    simpa using congrArg List.length h
  by_cases hcount : arguments.length = 2
  · match arguments, arguments', hcount with
    | [left, right], [left', right'], _ =>
        obtain ⟨hleft, hmore⟩ := List.cons.inj h
        obtain ⟨hright, -⟩ := List.cons.inj hmore
        rw [testTwo, testTwo, hleft, hright]
  · rw [testTwo_of_length_ne hcount, testTwo_of_length_ne (hlength ▸ hcount)]
    rfl

end Congruence

/-- An operation on numbers depends on its arguments by what they count
as. -/
theorem Primitive.category_apply_congr {p : Primitive} (hp : p.role = some .number)
    {arguments arguments' : List Value}
    (h : arguments.map Value.asNumber = arguments'.map Value.asNumber) :
    (p.apply arguments).mapError Failure.category =
      (p.apply arguments').mapError Failure.category := by
  cases p with
  | arithmetic op => exact op.category_apply_congr h
  | compareNumbers relation => exact testTwo_category_congr relation.holds h
  | _ => cases hp

/-- A value counts as a number exactly if inside the lists of one item
around it there is the integer, or a string of blanks, a numeral of the
number and no further digit; else it is refused by the name of what is
inside. The text of every number counts as the number in such a string.
And the operations on numbers give for arguments that count as numbers
what they give for the numbers: the same value, or a failure of the same
category. -/
theorem numbers_stand_for_arguments :
    (∀ v : Value, (∃ depth, Value.wrap depth v.core = v) ∧ ∀ item, v.core ≠ .list [item])
      ∧ (∀ (v : Value) n, v.asNumber = .ok n ↔
          v.core = .int n ∨ ∃ text, v.core = .str text ∧ Decimal.Leads text.toList n)
      ∧ (∀ v : Value, (∀ n, v.asNumber ≠ .ok n) →
          v.asNumber = .error (.mismatch "number" v.core))
      ∧ (∀ blanks n rest, (∀ c ∈ blanks, isBlank c = true) → Stops Char.isDigit rest →
          (Value.str (.ofList (blanks ++ (Decimal.format n ++ rest)))).asNumber = .ok n)
      ∧ ∀ (p : Primitive) (arguments : List Value) (numbers : List Int),
          p.role = some .number → arguments.map Value.asNumber = numbers.map .ok →
          (p.apply (numbers.map .int)).mapError Failure.category =
            (p.apply arguments).mapError Failure.category := by
  refine ⟨fun v => ⟨v.exists_wrap_core, v.core_ne_singleton⟩,
    fun v n => Value.asNumber_eq_ok_iff, fun v h => asNumber_eq_mismatch h,
    fun blanks n rest hblanks hrest => asNumber_format hblanks hrest n, ?_⟩
  intro p arguments numbers hp h
  refine Primitive.category_apply_congr hp ?_
  rw [h, List.map_map]
  rfl

/-- A quotient of texts, of which the second stands for zero inside two
lists, and a value without a number inside a list. -/
theorem numbers_stand_for_arguments_quotient :
    (Value.list [.bool true]).asNumber = .error (.mismatch "number" (.bool true))
      ∧ (Value.str "\t-7x").asNumber = .ok (-7)
      ∧ (apply "quotient" [.int (-7), .int 0]).mapError Failure.category =
          (apply "quotient" [.str "\t-7x", .list [.list [.int 0]]]).mapError Failure.category
      ∧ apply "quotient" [.str "\t-7x", .list [.list [.int 0]]] =
          .error (.divisionByZero "quotient" [.str "\t-7x", .list [.list [.int 0]]]) := by
  obtain ⟨-, -, hrefused, htext, hstand⟩ := numbers_stand_for_arguments
  have hblank : ∀ c ∈ ['\t'], isBlank c = true := List.forall_mem_singleton.2 (by decide)
  have hletter : Stops Char.isDigit ['x'] := stops_cons.2 (by decide)
  have hseven : (Value.str "\t-7x").asNumber = .ok (-7) := by
    have hformat := htext ['\t'] (-7) ['x'] hblank hletter
    rw [Decimal.format_eq_render] at hformat
    exact hformat
  have hnumbers : [Value.str "\t-7x", .list [.list [.int 0]]].map Value.asNumber =
      [-7, 0].map .ok := by
    rw [List.map_cons, hseven]
    rfl
  refine ⟨hrefused _ (fun n h => by cases h), hseven,
    hstand (.arithmetic .quotient) _ _ rfl hnumbers, ?_⟩
  have hzero : [Value.list [.list [.int 0]]].mapM Value.asNumber = .ok [0] := rfl
  exact Arithmetic.apply_of_numbers hseven hzero

end PocketScheme
