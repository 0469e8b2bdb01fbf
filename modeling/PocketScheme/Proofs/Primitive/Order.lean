/-
The comparisons: those of numbers and those of texts each answer as one
linear order does.

A comparison coerces its two operands and then tests what they count as.
An operand that is refused is refused before the test and in words that
do not depend on it, so all comparisons of a family refuse together
(`refused_or_coerced`). If none is refused, what the comparisons say is
what the order of integers, or that of texts, says of what the operands
count as. That the answers fit together needs nothing of these orders
but that they are linear, so it is one lemma for both families
(`coherent_of_tests`).

What is said is about what operands count as, not about the operands:
values that are not equal may be equal as numbers or as texts. Of two
integers both are the same question, as different integers have
different texts.

The order of texts is that of their first differing characters, by code
point (`Precedes`); a text without one is before every longer one that
it begins.
-/
import PocketScheme.Proofs.Primitive.Fold

namespace PocketScheme

open Text

-- =========================================================== vocabulary

/-- Whether an operation gives this truth value of two values. -/
def Answers (name : String) (v w : Value) (b : Bool) : Prop :=
  apply name [v, w] = .ok (.bool b)

/-- Whether exactly one of three answers is yes. -/
def ExactlyOne (p q r : Bool) : Prop := p.toNat + q.toNat + r.toNat = 1

/-- Whether five comparisons of values of one kind, given by their names,
answer as one linear order. -/
structure Coherent (kind less equal greater atLeast atMost : String) : Prop where
  /-- Two values are refused by all five in the same words, or they are in
  exactly one of the first three relations, and the other two deny the
  first and the third. -/
  answers (v w : Value) :
    (∃ found, ∀ name ∈ [less, equal, greater, atLeast, atMost],
        apply name [v, w] = .error (.mismatch kind found))
      ∨ ∃ l e g, ExactlyOne l e g
        ∧ Answers less v w l ∧ Answers equal v w e ∧ Answers greater v w g
        ∧ Answers atLeast v w !l ∧ Answers atMost v w !g
  refl (v : Value) : (∃ b, Answers atMost v v b) → Answers atMost v v true
  trans (u v w : Value) : Answers atMost u v true → Answers atMost v w true →
    Answers atMost u w true
  total (v w : Value) : (∃ b, Answers atMost v w b) →
    Answers atMost v w true ∨ Answers atMost w v true

/-- Whether a text comes before another one. What they have in common at
the front is followed by nothing in the first and something in the
second, or by characters of which the first has the lower code point. -/
def Precedes (s t : List Char) : Prop :=
  ∃ common s' t', s = common ++ s' ∧ t = common ++ t'
    ∧ (s' = [] ∧ t' ≠ []
      ∨ ∃ c d rest rest', s' = c :: rest ∧ t' = d :: rest' ∧ c.toNat < d.toNat)

-- ============================================================ one family

section Family

variable {α : Type} {coerce : Value → Except Failure α} {role : Role}

/-- A value is refused whatever it would be tested for, or both values
are coerced. -/
theorem refused_or_coerced (hcoerce : Coerces coerce role) (v w : Value) :
    (∃ found, ∀ test, testTwo coerce test [v, w] = .error (.mismatch role.noun found))
      ∨ ∃ a b, coerce v = .ok a ∧ coerce w = .ok b := by
  rcases role.suits_or_blames [v, w] with hsuits | hblames
  · obtain ⟨a, ha⟩ := (hcoerce.ok_iff v).2 (hsuits v (by simp))
    obtain ⟨b, hb⟩ := (hcoerce.ok_iff w).2 (hsuits w (by simp))
    exact .inr ⟨a, b, ha, hb⟩
  · obtain ⟨failure, hfailure⟩ := hblames
    obtain ⟨before, u, after, -, -, -, hwords⟩ := id hfailure
    exact .inl ⟨role.found u, fun test => hwords ▸ testTwo_of_blames hcoerce hfailure⟩

/-- A comparison answers with the test of what its operands count as. -/
theorem answers_iff {name : String} {test : α → α → Bool}
    (hname : ∀ v w, apply name [v, w] = testTwo coerce test [v, w]) {v w : Value} {answer : Bool} :
    Answers name v w answer ↔
      ∃ a b, coerce v = .ok a ∧ coerce w = .ok b ∧ test a b = answer := by
  unfold Answers
  rw [hname, testTwo]
  constructor
  · intro h
    obtain ⟨a, ha, h⟩ := bind_eq_ok_iff.1 h
    obtain ⟨b, hb, h⟩ := bind_eq_ok_iff.1 h
    cases h
    exact ⟨a, b, ha, hb, rfl⟩
  · intro h
    obtain ⟨a, b, ha, hb, htest⟩ := h
    rw [ha, hb, ← htest]
    rfl

/-- What an operation answers, it answers only so. -/
theorem Answers.iff_eq {name : String} {v w : Value} {b answer : Bool}
    (h : Answers name v w answer) : Answers name v w b ↔ b = answer := by
  unfold Answers at h ⊢
  rw [h, Except.ok.injEq, Value.bool.injEq, eq_comm]

variable [LE α] [LT α] [Std.IsLinearOrder α] [Std.LawfulOrderLT α] [DecidableLT α]

/-- Of a linear order, exactly one of before, equal and behind is true. -/
theorem exactlyOne_of_order [DecidableEq α] (a b : α) :
    ExactlyOne (decide (a < b)) (decide (a = b)) (decide (b < a)) := by
  unfold ExactlyOne
  rcases Std.lt_trichotomy a b with hless | heq | hgreater
  · have hne : a ≠ b := by
      intro heq
      exact Std.lt_irrefl (heq ▸ hless)
    rw [decide_eq_true hless, decide_eq_false hne, decide_eq_false (Std.not_gt_of_lt hless)]
    rfl
  · subst heq
    rw [decide_eq_false Std.lt_irrefl, decide_eq_true rfl]
    rfl
  · have hne : a ≠ b := by
      intro heq
      exact Std.lt_irrefl (heq ▸ hgreater)
    rw [decide_eq_true hgreater, decide_eq_false hne, decide_eq_false (Std.not_gt_of_lt hgreater)]
    rfl

theorem decide_le_eq [DecidableLE α] (a b : α) : decide (a ≤ b) = !decide (b < a) := by
  rw [← decide_not, decide_eq_decide]
  exact Std.not_lt.symm

/-- Five tests of a linear order, of values that are coerced into it, are
coherent. -/
theorem coherent_of_tests [DecidableEq α] [DecidableLE α] (hcoerce : Coerces coerce role)
    {less equal greater atLeast atMost : String}
    (hless : ∀ v w, apply less [v, w] = testTwo coerce (fun a b => decide (a < b)) [v, w])
    (hequal : ∀ v w, apply equal [v, w] = testTwo coerce (fun a b => decide (a = b)) [v, w])
    (hgreater : ∀ v w, apply greater [v, w] = testTwo coerce (fun a b => decide (b < a)) [v, w])
    (hatLeast : ∀ v w, apply atLeast [v, w] = testTwo coerce (fun a b => decide (b ≤ a)) [v, w])
    (hatMost : ∀ v w, apply atMost [v, w] = testTwo coerce (fun a b => decide (a ≤ b)) [v, w]) :
    Coherent role.noun less equal greater atLeast atMost where
  answers v w := by
    rcases refused_or_coerced hcoerce v w with ⟨found, hrefused⟩ | ⟨a, b, ha, hb⟩
    · refine .inl ⟨found, ?_⟩
      simp only [List.forall_mem_cons, hless, hequal, hgreater, hatLeast, hatMost, hrefused]
      simp
    · refine .inr ⟨_, _, _, exactlyOne_of_order a b, (answers_iff hless).2 ⟨a, b, ha, hb, rfl⟩,
        (answers_iff hequal).2 ⟨a, b, ha, hb, rfl⟩, (answers_iff hgreater).2 ⟨a, b, ha, hb, rfl⟩,
        (answers_iff hatLeast).2 ⟨a, b, ha, hb, decide_le_eq b a⟩,
        (answers_iff hatMost).2 ⟨a, b, ha, hb, decide_le_eq a b⟩⟩
  refl v h := by
    obtain ⟨answer, h⟩ := h
    obtain ⟨a, -, ha, -⟩ := (answers_iff hatMost).1 h
    exact (answers_iff hatMost).2 ⟨a, a, ha, ha, decide_eq_true (Std.le_refl a)⟩
  trans u v w huv hvw := by
    obtain ⟨a, b, ha, hb, hab⟩ := (answers_iff hatMost).1 huv
    obtain ⟨b', c, hb', hc, hbc⟩ := (answers_iff hatMost).1 hvw
    cases hb.symm.trans hb'
    have hac : a ≤ c := Std.le_trans (of_decide_eq_true hab) (of_decide_eq_true hbc)
    exact (answers_iff hatMost).2 ⟨a, c, ha, hc, decide_eq_true hac⟩
  total v w h := by
    obtain ⟨answer, h⟩ := h
    obtain ⟨a, b, ha, hb, -⟩ := (answers_iff hatMost).1 h
    rcases Std.le_total (a := a) (b := b) with hle | hge
    · exact .inl ((answers_iff hatMost).2 ⟨a, b, ha, hb, decide_eq_true hle⟩)
    · exact .inr ((answers_iff hatMost).2 ⟨b, a, hb, ha, decide_eq_true hge⟩)

end Family

-- =============================================================== numbers

theorem answers_number_iff (relation : NumberRelation) {v w : Value} {answer : Bool} :
    Answers relation.name v w answer ↔
      ∃ a b, v.asNumber = .ok a ∧ w.asNumber = .ok b ∧ relation.holds a b = answer :=
  answers_iff fun v w => apply_name (.compareNumbers relation) [v, w]

theorem coherent_numbers : Coherent "number" "<" "=" ">" ">=" "<=" :=
  coherent_of_tests coerces_asNumber (fun v w => apply_name (.compareNumbers .less) [v, w])
    (fun v w => apply_name (.compareNumbers .equal) [v, w])
    (fun v w => apply_name (.compareNumbers .greater) [v, w])
    (fun v w => apply_name (.compareNumbers .atLeast) [v, w])
    (fun v w => apply_name (.compareNumbers .atMost) [v, w])

/-- The sixth comparison of numbers denies equality, or refuses as it
does. -/
theorem unequal_cases (v w : Value) :
    (∃ found, apply "/=" [v, w] = .error (.mismatch "number" found)
        ∧ apply "=" [v, w] = .error (.mismatch "number" found))
      ∨ ∃ e, Answers "=" v w e ∧ Answers "/=" v w !e := by
  rcases refused_or_coerced coerces_asNumber v w with ⟨found, hrefused⟩ | ⟨a, b, ha, hb⟩
  · refine .inl ⟨found, ?_, ?_⟩
    · exact (apply_name (.compareNumbers .unequal) [v, w]).trans (hrefused _)
    · exact (apply_name (.compareNumbers .equal) [v, w]).trans (hrefused _)
  · exact .inr ⟨decide (a = b), (answers_number_iff .equal).2 ⟨a, b, ha, hb, rfl⟩,
      (answers_number_iff .unequal).2 ⟨a, b, ha, hb, decide_not⟩⟩

/-- The same number added to two others leaves them in their order. -/
theorem less_add {u v w : Value} (h : ∃ b, Answers "<" u v b) (hw : ∃ n, w.asNumber = .ok n) :
    ∃ s t, apply "+" [u, w] = .ok s ∧ apply "+" [v, w] = .ok t
      ∧ ∀ b, Answers "<" s t b ↔ Answers "<" u v b := by
  obtain ⟨answer, h⟩ := h
  obtain ⟨a, b, ha, hb, -⟩ := (answers_number_iff .less).1 h
  obtain ⟨n, hn⟩ := hw
  have hsum {x : Value} {c : Int} (hx : x.asNumber = .ok c) :
      apply "+" [x, w] = .ok (.int (c + (n + 0))) := by
    have hnumbers : [x, w].map Value.asNumber = [c, n].map .ok := by
      rw [List.map_cons, List.map_singleton, hx, hn]
      rfl
    have htwo : 2 ≤ [x, w].length := Nat.le_refl 2
    exact Arithmetic.gathers_add.apply_eq htwo hnumbers
  have horder : decide (a + (n + 0) < b + (n + 0)) = decide (a < b) := by
    rw [decide_eq_decide]
    omega
  have hplain : Answers "<" u v (decide (a < b)) :=
    (answers_number_iff .less).2 ⟨a, b, ha, hb, rfl⟩
  have hshifted : Answers "<" (.int (a + (n + 0))) (.int (b + (n + 0))) (decide (a < b)) :=
    (answers_number_iff .less).2 ⟨_, _, rfl, rfl, horder⟩
  refine ⟨_, _, hsum ha, hsum hb, fun answer => ?_⟩
  rw [hshifted.iff_eq, hplain.iff_eq]

-- ================================================================= texts

theorem answers_text_iff (relation : TextRelation) {v w : Value} {answer : Bool} :
    Answers relation.name v w answer ↔
      ∃ s t, v.asText = .ok s ∧ w.asText = .ok t ∧ relation.holds s t = answer :=
  answers_iff fun v w => apply_name (.compareTexts relation) [v, w]

theorem coherent_texts :
    Coherent "string" "string<?" "string=?" "string>?" "string>=?" "string<=?" :=
  coherent_of_tests coerces_asText (fun v w => apply_name (.compareTexts .less) [v, w])
    (fun v w => apply_name (.compareTexts .equal) [v, w])
    (fun v w => apply_name (.compareTexts .greater) [v, w])
    (fun v w => apply_name (.compareTexts .atLeast) [v, w])
    (fun v w => apply_name (.compareTexts .atMost) [v, w])

theorem lt_iff_toNat_lt {c d : Char} : c < d ↔ c.toNat < d.toNat := by
  rw [Char.lt_def, UInt32.lt_iff_toNat_lt]
  rfl

/-- The order of texts is the one by code points. -/
theorem lt_iff_precedes {s t : List Char} : s < t ↔ Precedes s t := by
  constructor
  · intro h
    have hlex : List.Lex (· < ·) s t := h
    induction hlex with
    | nil => exact ⟨[], [], _, rfl, rfl, .inl ⟨rfl, List.cons_ne_nil _ _⟩⟩
    | rel hcd =>
        exact ⟨[], _, _, rfl, rfl, .inr ⟨_, _, _, _, rfl, rfl, lt_iff_toNat_lt.1 hcd⟩⟩
    | cons hlex ih =>
        obtain ⟨common, s', t', hs, ht, hend⟩ := ih hlex
        exact ⟨_ :: common, s', t', congrArg _ hs, congrArg _ ht, hend⟩
  · intro h
    obtain ⟨common, s', t', rfl, rfl, hend⟩ := h
    show List.Lex (· < ·) (common ++ s') (common ++ t')
    induction common with
    | nil =>
        rcases hend with ⟨rfl, hne⟩ | ⟨c, d, rest, rest', rfl, rfl, hcd⟩
        · obtain ⟨d, rest', rfl⟩ := List.exists_cons_of_ne_nil hne
          exact .nil
        · exact .rel (lt_iff_toNat_lt.2 hcd)
    | cons c common ih => exact .cons ih

theorem answers_less_text {v w : Value} {s t : String} (hs : v.asText = .ok s)
    (ht : w.asText = .ok t) :
    Answers "string<?" v w true ↔ Precedes s.toList t.toList := by
  have hanswer : Answers "string<?" v w (decide (s < t)) :=
    (answers_text_iff .less).2 ⟨s, t, hs, ht, rfl⟩
  rw [hanswer.iff_eq, ← lt_iff_precedes, ← String.lt_iff, eq_comm, decide_eq_true_iff]

-- ============================================================== integers

/-- Integers with one text are one. -/
theorem text_int_inj {m n : Int} : (Value.int m).text = (Value.int n).text ↔ m = n := by
  rw [Value.text, Value.text, String.ofList_inj]
  exact Decimal.format_inj

/-- Two integers are equal as numbers, as texts and as values, or in none
of these ways. -/
theorem answers_equal_int (m n : Int) :
    Answers "=" (.int m) (.int n) (decide (m = n))
      ∧ Answers "string=?" (.int m) (.int n) (decide (m = n))
      ∧ Answers "eqv?" (.int m) (.int n) (decide (m = n)) := by
  refine ⟨(answers_number_iff .equal).2 ⟨m, n, rfl, rfl, rfl⟩,
    (answers_text_iff .equal).2 ⟨_, _, rfl, rfl, decide_eq_decide.2 text_int_inj⟩, ?_⟩
  have heqv : apply "eqv?" [.int m, .int n] = .ok (.bool (Value.same (.int m) (.int n))) :=
    (apply_name .eqv _).trans (Value.eqv_pair _ _)
  unfold Answers
  rw [heqv, Value.same]
  rfl

-- ============================================================ both families

/-- The comparisons of numbers and those of texts are coherent: they
refuse together, or answer as one linear order, whose strict part does
not change if one number is added to both sides and is, of texts, the
order of the first difference in code points. The sixth comparison of
numbers denies equality. Integers are equal as numbers, as texts and as
values at once. -/
theorem comparisons_are_orders :
    Coherent "number" "<" "=" ">" ">=" "<="
      ∧ (∀ v w, (∃ found, apply "/=" [v, w] = .error (.mismatch "number" found)
            ∧ apply "=" [v, w] = .error (.mismatch "number" found))
          ∨ ∃ e, Answers "=" v w e ∧ Answers "/=" v w !e)
      ∧ (∀ u v w : Value, (∃ b, Answers "<" u v b) → (∃ n, w.asNumber = .ok n) →
          ∃ s t, apply "+" [u, w] = .ok s ∧ apply "+" [v, w] = .ok t
            ∧ ∀ b, Answers "<" s t b ↔ Answers "<" u v b)
      ∧ Coherent "string" "string<?" "string=?" "string>?" "string>=?" "string<=?"
      ∧ (∀ (v w : Value) s t, v.asText = .ok s → w.asText = .ok t →
          (Answers "string<?" v w true ↔ Precedes s.toList t.toList))
      ∧ ∀ m n, ∃ b, Answers "=" (.int m) (.int n) b ∧ Answers "string=?" (.int m) (.int n) b
          ∧ Answers "eqv?" (.int m) (.int n) b :=
  ⟨coherent_numbers, unequal_cases, fun _ _ _ => less_add, coherent_texts,
    fun _ _ _ _ => answers_less_text, fun m n => ⟨_, answers_equal_int m n⟩⟩

/-- Numbers in lists, compared and added to, and a truth value compared
with the string that goes on after its text. -/
theorem comparisons_are_orders_mixed :
    Answers "<=" (.list [.int (-1)]) (.list [.list [.int 5]]) true
      ∧ Answers "<=" (.list [.int 5]) (.list [.int 5]) true
      ∧ (∃ s t, apply "+" [.list [.int (-1)], .list [.int 5]] = .ok s
          ∧ apply "+" [.int 0, .list [.int 5]] = .ok t
          ∧ ∀ b, Answers "<" s t b ↔ Answers "<" (.list [.int (-1)]) (.int 0) b)
      ∧ Answers "string<?" (.bool true) (.str "#tx") true := by
  obtain ⟨hnumbers, -, hadd, -, hless, -⟩ := comparisons_are_orders
  refine ⟨hnumbers.trans _ (.int 0) _ rfl rfl, hnumbers.refl _ ⟨true, rfl⟩,
    hadd _ _ _ ⟨true, rfl⟩ ⟨5, rfl⟩, (hless _ _ _ _ rfl rfl).2 ?_⟩
  rw [Value.text, String.toList_ofList]
  exact ⟨['#', 't'], [], ['x'], rfl, rfl, .inl ⟨rfl, List.cons_ne_nil _ _⟩⟩

end PocketScheme
