/-
Values and failures on one channel: no text is the answer to one source
for its value and to another for its failure.

Every message starts with a letter and has a space in it (`IsMessage`).
The text of a value starts with a letter only if the value is an atom,
and the atoms that evaluation gives are ones that a text can spell, so
there is no space in them (`not_isMessage_render`). On the side of the
failures it matters which ones there are: the unreadable texts, the
origins of failing evaluations, and the rejections of applications. All
that varies in their messages stands behind the first words.
-/
import PocketScheme.Proofs.Evaluation.Origin
import PocketScheme.Proofs.Evaluation.Rejection
import PocketScheme.Proofs.Session.ReadBack

namespace PocketScheme

open Text

-- ======================================================= two kinds of texts

/-- A text that starts with a letter and has a space in it. -/
def IsMessage (text : List Char) : Prop := text.head?.any isLetter = true ∧ ' ' ∈ text

instance decIsMessage : DecidablePred IsMessage := fun text =>
  inferInstanceAs (Decidable (text.head?.any isLetter = true ∧ ' ' ∈ text))

theorem IsMessage.append {text : List Char} (h : IsMessage text) (rest : List Char) :
    IsMessage (text ++ rest) := by
  obtain ⟨hletter, hspace⟩ := h
  cases text with
  | nil => cases hspace
  | cons c text => exact ⟨hletter, List.mem_append_left rest hspace⟩

theorem not_isMessage_cons {c : Char} (hc : isLetter c = false) (text : List Char) :
    ¬IsMessage (c :: text) := by
  rintro ⟨hletter, -⟩
  rw [List.head?_cons, Option.any_some, hc] at hletter
  cases hletter

theorem not_isMessage_decimal (n : Int) : ¬IsMessage (Decimal.render n) := by
  cases n with
  | ofNat n =>
      rw [Decimal.render]
      cases hdigits : Nat.toDigits 10 n with
      | nil => exact absurd hdigits Nat.toDigits_ne_nil
      | cons d digits =>
          have hmem : d ∈ Nat.toDigits 10 n := by simp [hdigits]
          have hd : d.isDigit = true := Nat.isDigit_of_mem_toDigits (by decide) (by decide) hmem
          exact not_isMessage_cons (isLetter_of_isDigit hd) digits
  | negSucc n => exact not_isMessage_cons (by decide) _

/-- The text of a spellable value is no message. -/
theorem not_isMessage_render {v : Value} (h : v.Spellable) : ¬IsMessage v.render := by
  cases v with
  | atom name =>
      rintro ⟨-, hspace⟩
      obtain ⟨hatom, -, -⟩ := h
      exact absurd (continuesAtom_of_isAtom hatom ' ' hspace) (by decide)
  | int n =>
      rw [Value.render_int]
      exact not_isMessage_decimal n
  | str text | dotted first more tail =>
      rw [Value.render]
      exact not_isMessage_cons (by decide) _
  | bool b => cases b <;> exact not_isMessage_cons (by decide) _
  | list items =>
      cases items <;> rw [Value.render] <;> exact not_isMessage_cons (by decide) _

-- ============================================================== failures

theorem isMessage_refused {form : Value} {message : String} (h : Refused form message) :
    IsMessage message.toList := by
  cases h with
  | noRule _ => decide
  | malformed special _ => cases special <;> decide

/-- The blanks that are stripped from the message about a number of
arguments come after its first words. -/
theorem isMessage_arity (expected : Int) (found : List Value) :
    IsMessage (Failure.arity expected found).render := by
  have hrender : (Failure.arity expected found).render =
      stripBack ("Expected ".toList ++ (Decimal.render expected ++ [' '])
        ++ 'a' :: ("rgs; found values ".toList ++ Value.renderAll found)) := by
    unfold Failure.render
    simp
  rw [hrender, stripBack_append_cons _ _ (by decide), List.append_assoc]
  exact IsMessage.append (by decide) _

theorem isMessage_rejection {name : String} {arguments : List Value} {failure : Failure}
    (h : Rejection name arguments failure) : IsMessage failure.render := by
  cases h with
  | unknown | zeroDivisor =>
      unfold Failure.render
      simp only [List.append_assoc]
      exact IsMessage.append (by decide) _
  | count => exact isMessage_arity _ arguments
  | operand _ _ _ hblames =>
      obtain ⟨-, v, -, -, -, -, rfl⟩ := hblames
      unfold Failure.render
      simp only [List.append_assoc]
      exact IsMessage.append (by decide) _

/-- The message of a failure of evaluation is one. -/
theorem isMessage_of_evaluate {form : Value} {failure : Failure}
    (h : evaluate form = .error failure) : IsMessage failure.render := by
  obtain ⟨-, part, -, -, horigin⟩ := exists_origin h
  cases horigin with
  | refused hrefused =>
      unfold Failure.render
      exact ((isMessage_refused hrefused).append _).append _
  | call _ _ happly => exact isMessage_rejection (apply_eq_error_iff.1 happly)

theorem isMessage_of_read {text : List Char} {failure : Failure}
    (h : read text = .error failure) : IsMessage failure.render := by
  obtain ⟨-, -, -, -, -, -, -, detail, rfl⟩ := exists_halts_of_read_error h
  unfold Failure.render
  simp only [List.append_assoc]
  exact IsMessage.append (by decide) _

theorem isMessage_of_evaluateText {code : List Char} {failure : Failure}
    (h : evaluateText code = .error failure) : IsMessage failure.render := by
  rcases bind_eq_error_iff.1 h with hread | ⟨form, -, hevaluate⟩
  · exact isMessage_of_read hread
  · exact isMessage_of_evaluate hevaluate

-- ============================================================ the channel

/-- A value and a failure never have one text, and no source that has a
value is answered like one that fails. -/
theorem render_ne_render_of_evaluateText {code code' : List Char} {v : Value} {failure : Failure}
    (hvalue : evaluateText code = .ok v) (hfailure : evaluateText code' = .error failure) :
    v.render ≠ failure.render ∧ (Session.report code).answer ≠ (Session.report code').answer := by
  have hne : v.render ≠ failure.render := by
    intro heq
    apply not_isMessage_render (spellable_of_evaluateText hvalue)
    rw [heq]
    exact isMessage_of_evaluateText hfailure
  refine ⟨hne, ?_⟩
  rw [Session.answer_report, Session.answer_report, hvalue, hfailure]
  exact hne

/-- A string that holds a message is printed between its quotes. -/
theorem render_ne_render_of_evaluateText_division :
    evaluateText "\"Division by zero in (/ 1 0)\"".toList =
        .ok (.str "Division by zero in (/ 1 0)")
      ∧ evaluateText "(/ 1 0)".toList = .error (.divisionByZero "/" [.int 1, .int 0])
      ∧ (Value.str "Division by zero in (/ 1 0)").render ≠
          (Failure.divisionByZero "/" [.int 1, .int 0]).render := by
  have hvalue : evaluateText "\"Division by zero in (/ 1 0)\"".toList =
      .ok (.str "Division by zero in (/ 1 0)") := by
    with_unfolding_all rfl
  have hfailure : evaluateText "(/ 1 0)".toList =
      .error (.divisionByZero "/" [.int 1, .int 0]) := by
    with_unfolding_all rfl
  exact ⟨hvalue, hfailure, (render_ne_render_of_evaluateText hvalue hfailure).1⟩

end PocketScheme
