/-
Answers read back: the text of a value that was computed, as a source.

The form that is read from a text is readable, so what it evaluates to
is spellable (`spellable_of_evaluateText`): reading makes no other values
and evaluation keeps that. The text of a spellable value is an
expression again, and its value is that value but for the integers below
zero, which read as atoms. With an apostrophe in front the expression
evaluates to what it reads as.
-/
import PocketScheme.Proofs.Evaluation.Application
import PocketScheme.Proofs.Value.Spelling
import PocketScheme.Session

namespace PocketScheme

open Value

/-- Whatever a text evaluates to is spellable. -/
theorem spellable_of_evaluateText {code : List Char} {v : Value} (h : evaluateText code = .ok v) :
    v.Spellable := by
  obtain ⟨form, hread, hevaluate⟩ := bind_eq_ok_iff.1 h
  have hform : form.Readable := (read_eq_ok_iff_spells.1 hread).readable
  exact evaluate_every kept_spelled hform.spellable hevaluate

/-- The text of a value behind an apostrophe evaluates to what the text
reads as. -/
theorem evaluateText_quoted {text : List Char} {v : Value} (h : Spells text (.form v)) :
    evaluateText ('\'' :: text) = .ok v := by
  have hread : read ('\'' :: text) = .ok (Reading.quote v) := read_eq_ok_iff_spells.2 (.quoted h)
  rw [evaluateText, bind_eq_ok_iff]
  exact ⟨Reading.quote v, hread, evaluate_quotation v⟩

/-- What is printed of a value that was computed can be read back: as the
value with atoms for its negative integers, and so as the value itself
exactly if it has none, whether it is only read or evaluated behind an
apostrophe. -/
theorem read_render_of_evaluateText {code : List Char} {v : Value}
    (h : evaluateText code = .ok v) :
    read v.render = .ok v.respell
      ∧ (read v.render = .ok v ↔ v.Every Nonnegative)
      ∧ evaluateText ('\'' :: v.render) = .ok v.respell
      ∧ (evaluateText ('\'' :: v.render) = .ok v ↔ v.Every Nonnegative) := by
  have hspells := spells_render_respell (spellable_of_evaluateText h)
  have hread : read v.render = .ok v.respell := read_eq_ok_iff_spells.2 hspells
  have hquoted : evaluateText ('\'' :: v.render) = .ok v.respell := evaluateText_quoted hspells
  refine ⟨hread, ?_, hquoted, ?_⟩
  · rw [hread, Except.ok.injEq, respell_eq_self_iff]
  · rw [hquoted, Except.ok.injEq, respell_eq_self_iff]

/-- A difference below zero, in front of a dotted list, reads as an
atom. -/
theorem read_render_of_evaluateText_difference :
    evaluateText "(cons (- 2 7) '(\"x\" . b))".toList =
        .ok (.dotted (.int (-5)) [.str "x"] (.atom "b"))
      ∧ read "(-5 \"x\" . b)".toList = .ok (.dotted (.atom "-5") [.str "x"] (.atom "b"))
      ∧ evaluateText "'(-5 \"x\" . b)".toList ≠
          .ok (.dotted (.int (-5)) [.str "x"] (.atom "b")) := by
  have hvalue : evaluateText "(cons (- 2 7) '(\"x\" . b))".toList =
      .ok (.dotted (.int (-5)) [.str "x"] (.atom "b")) := by
    with_unfolding_all rfl
  have hrender : (Value.dotted (.int (-5)) [.str "x"] (.atom "b")).render =
      "(-5 \"x\" . b)".toList := by
    rw [Value.render, Value.render_int]
    rfl
  obtain ⟨hread, -, -, hquoted⟩ := read_render_of_evaluateText hvalue
  rw [hrender] at hread hquoted
  refine ⟨hvalue, hread, fun hsame => ?_⟩
  have hnegative : ¬(Value.dotted (.int (-5)) [.str "x"] (.atom "b")).Every Nonnegative := by
    decide
  exact hnegative (hquoted.1 hsame)

end PocketScheme
