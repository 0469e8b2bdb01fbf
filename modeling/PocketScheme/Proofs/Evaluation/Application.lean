/-
Applications: what a primitive can give.

It gives a number, a truth value, a part of an argument, or one argument
in front of another. So a property of single values that numbers, truth
values and lists have anyway, and a dotted list for its tail alone
(`Kept`), holds everywhere in the result if it holds everywhere in the
arguments. It is then kept by evaluation, which only takes forms apart,
quotes them and applies primitives: a value has it everywhere if the
form has (`evaluate_every`), or only what the form holds as data
(`evaluate_every_of_data`).
-/
import PocketScheme.Proofs.Computation
import PocketScheme.Proofs.Evaluation.Rule
import PocketScheme.Proofs.Value.Coercion
import PocketScheme.Proofs.Value.Equivalence
import PocketScheme.Proofs.Value.Kept

namespace PocketScheme

open Value (Kept every_list_iff)

-- ====================================================== what is computed

theorem Arithmetic.apply_eq_ok {op : Arithmetic} {arguments : List Value} {v : Value}
    (h : op.apply arguments = .ok v) : ∃ n, v = .int n := by
  unfold Arithmetic.apply at h
  split at h
  · obtain ⟨number, -, h⟩ := bind_eq_ok_iff.1 h
    obtain ⟨numbers, -, h⟩ := bind_eq_ok_iff.1 h
    split at h
    · next result _ =>
        cases h
        exact ⟨result, rfl⟩
    · cases h
  · cases h

theorem testTwo_eq_ok {α : Type} {coerce : Value → Except Failure α} {test : α → α → Bool}
    {arguments : List Value} {v : Value} (h : testTwo coerce test arguments = .ok v) :
    ∃ b, v = .bool b := by
  unfold testTwo at h
  split at h
  · obtain ⟨a, -, h⟩ := bind_eq_ok_iff.1 h
    obtain ⟨b, -, h⟩ := bind_eq_ok_iff.1 h
    cases h
    exact ⟨test a b, rfl⟩
  · cases h

theorem eqv_eq_ok {arguments : List Value} {v : Value} (h : Value.eqv arguments = .ok v) :
    ∃ b, v = .bool b := by
  rcases Value.eqv_cases arguments with ⟨b, hanswer⟩ | hfailure
  · rw [hanswer] at h
    cases h
    exact ⟨b, rfl⟩
  · rw [hfailure] at h
    cases h

-- ================================================================= data

/-- What a form holds as data, in the places that evaluation may come to:
its literals, and what it quotes. -/
inductive IsDatum (datum : Value) : Value → Prop where
  | literal : IsLiteral datum → IsDatum datum datum
  | quotation : IsDatum datum (Reading.quote datum)
  | inOperand {name : String} {operands : List Value} {operand : Value} :
      SpecialForm.ofName? name = none → operand ∈ operands → IsDatum datum operand →
      IsDatum datum (.list (.atom name :: operands))
  | inCondition {condition thenForm elseForm : Value} :
      IsDatum datum condition → IsDatum datum (choice condition thenForm elseForm)
  | inThen {condition thenForm elseForm : Value} :
      IsDatum datum thenForm → IsDatum datum (choice condition thenForm elseForm)
  | inElse {condition thenForm elseForm : Value} :
      IsDatum datum elseForm → IsDatum datum (choice condition thenForm elseForm)

/-- What holds everywhere in a form holds everywhere in its data. -/
theorem IsDatum.every {p : Value → Prop} {datum form : Value} (h : IsDatum datum form)
    (hform : form.Every p) : datum.Every p := by
  induction h with
  | literal => exact hform
  | quotation => exact (every_list_iff.1 hform).2 datum (by simp)
  | inOperand _ hmem _ ih => exact ih ((every_list_iff.1 hform).2 _ (.tail _ hmem))
  | inCondition _ ih | inThen _ ih | inElse _ ih => exact ih ((every_list_iff.1 hform).2 _ (by simp))

-- ============================================================= what is kept

section Values

variable {p : Value → Prop} (hp : Kept p)

include hp

/-- A primitive keeps what is kept. -/
theorem Primitive.apply_every {primitive : Primitive} {arguments : List Value} {v : Value}
    (harguments : ∀ a ∈ arguments, a.Every p) (h : primitive.apply arguments = .ok v) :
    v.Every p := by
  cases primitive with
  | arithmetic op =>
      obtain ⟨n, rfl⟩ := Arithmetic.apply_eq_ok h
      exact hp.int n
  | compareNumbers | connect | compareTexts =>
      obtain ⟨b, rfl⟩ := testTwo_eq_ok h
      exact hp.bool b
  | eqv =>
      obtain ⟨b, rfl⟩ := eqv_eq_ok h
      exact hp.bool b
  | car =>
      match arguments with
      | [a] => exact (harguments a (.head _)).front? (part_eq_ok_iff.1 h)
      | [] | _ :: _ :: _ => cases h
  | cdr =>
      match arguments with
      | [a] => exact (harguments a (.head _)).rest? hp (part_eq_ok_iff.1 h)
      | [] | _ :: _ :: _ => cases h
  | cons =>
      match arguments with
      | [a, b] =>
          cases h
          exact (harguments a (by simp)).cons hp (harguments b (by simp))
      | [] | [_] | _ :: _ :: _ :: _ => cases h

theorem apply_every {name : String} {arguments : List Value} {v : Value}
    (harguments : ∀ a ∈ arguments, a.Every p) (h : apply name arguments = .ok v) : v.Every p := by
  unfold apply at h
  split at h
  · exact Primitive.apply_every hp harguments h
  · cases h

/-- What the data of a form have everywhere and what is kept, its value
has everywhere. -/
theorem evaluate_every_of_data {form v : Value}
    (hdata : ∀ datum, IsDatum datum form → datum.Every p) (h : evaluate form = .ok v) :
    v.Every p := by
  induction form using form_induction generalizing v with
  | literal w hw =>
      rw [evaluate_literal hw] at h
      cases h
      exact hdata w (.literal hw)
  | quotation form =>
      rw [evaluate_quotation] at h
      cases h
      exact hdata form .quotation
  | choice condition thenForm elseForm _ hthen helse =>
      rw [evaluate_choice] at h
      obtain ⟨w, -, h⟩ := bind_eq_ok_iff.1 h
      split at h
      · exact helse (fun datum hdatum => hdata datum hdatum.inElse) h
      · exact hthen (fun datum hdatum => hdata datum hdatum.inThen) h
  | call name operands hname hoperand =>
      rw [evaluate_call hname] at h
      obtain ⟨arguments, harguments, happly⟩ := bind_eq_ok_iff.1 h
      refine apply_every hp (fun a ha => ?_) happly
      obtain ⟨operand, hmem, hvalue⟩ := (mem_iff_of_mapM_eq_ok harguments).1 ha
      exact hoperand operand hmem
        (fun datum hdatum => hdata datum (.inOperand hname hmem hdatum)) hvalue
  | refused form message hrefused =>
      rw [evaluate_refused hrefused] at h
      cases h

/-- Evaluation keeps what is kept. -/
theorem evaluate_every {form v : Value} (hform : form.Every p) (h : evaluate form = .ok v) :
    v.Every p :=
  evaluate_every_of_data hp (fun _ hdatum => hdatum.every hform) h

end Values

end PocketScheme
