/-
A call as a text, and the application that it stands for.

Between the values that a primitive is applied to and a text that calls
it stand their texts, each written so that it evaluates to the value
again: behind an apostrophe, inside a list that quotes, or plain if the
value is a literal. What is read of a text written in this way is one
form for each value (`Operands.spells`), and no form of these fails, so
that all that happens to the call is the application, with its value or
with its failure. It does not matter for this whether the name names
anything.
-/
import PocketScheme.Proofs.Computation
import PocketScheme.Proofs.Evaluation.Rule
import PocketScheme.Proofs.Reading.RoundTrip
import PocketScheme.Session

namespace PocketScheme

open Text

-- ============================================================= operands

/-- The texts that are written for a value as an operand. -/
inductive Operand (v : Value) : List Char → Prop where
  /-- Its text, behind an apostrophe. -/
  | apostrophe : Operand v ('\'' :: v.render)
  /-- A list that quotes its text. -/
  | quotation {space : List Char} :
      Run isBlank space → Operand v ("(quote".toList ++ space ++ v.render ++ [')'])
  /-- Its text as it is, if it is its own value. -/
  | literal : IsLiteral v → Operand v v.render

/-- The texts that are written for values as the operands of a call, each
behind blanks. -/
inductive Operands : List Value → List Char → Prop where
  | nil : Operands [] []
  | cons {v : Value} {values : List Value} {space text more : List Char} :
      Run isBlank space → Operand v text → Operands values more →
      Operands (v :: values) (space ++ text ++ more)

/-- The operands as they are written most simply: a space, an apostrophe
and the text of the value. -/
def quotedOperands (values : List Value) : List Char :=
  values.flatMap fun v => ' ' :: '\'' :: v.render

theorem operands_quoted (values : List Value) : Operands values (quotedOperands values) := by
  induction values with
  | nil => exact .nil
  | cons v values ih => exact .cons run_space .apostrophe ih

/-- What is written for a value is a form that evaluates to it. -/
theorem Operand.spells {v : Value} {text : List Char} (h : Operand v text) (hv : v.Readable) :
    ∃ form, Spells text (.form form) ∧ evaluate form = .ok v := by
  have htext := spells_render v hv
  cases h with
  | apostrophe => exact ⟨Reading.quote v, .quoted htext, evaluate_quotation v⟩
  | @quotation space hspace =>
      have hname : Spells "quote".toList (.form (.atom "quote")) := spells_name (by decide)
      have hlist := Spells.list ((Spells.one hname).snoc hspace htext)
      refine ⟨Reading.quote v, ?_, evaluate_quotation v⟩
      simpa [Reading.quote] using hlist
  | literal hliteral => exact ⟨v, htext, evaluate_literal hliteral⟩

/-- What is written for values, behind the items of a list, is further
items, which evaluate to the values. -/
theorem Operands.spells {values : List Value} {text : List Char} (h : Operands values text)
    (hvalues : ∀ v ∈ values, v.Readable) :
    ∃ forms : List Value, forms.map evaluate = values.map .ok
      ∧ ∀ {front : List Char} {first : Value} {before : List Value},
        Spells front (.items first before) →
        Spells (front ++ text) (.items first (before ++ forms)) := by
  induction h with
  | nil => exact ⟨[], rfl, fun hfront => by simpa using hfront⟩
  | @cons v values space text more hspace htext _ ih =>
      obtain ⟨hv, hvalues⟩ := List.forall_mem_cons.1 hvalues
      obtain ⟨form, hform, hvalue⟩ := htext.spells hv
      obtain ⟨forms, hresults, hmore⟩ := ih hvalues
      refine ⟨form :: forms, ?_, fun hfront => ?_⟩
      · rw [List.map_cons, List.map_cons, hvalue, hresults]
      · have hitems := hmore (hfront.snoc hspace hform)
        simpa using hitems

-- ================================================================ calls

theorem SpecialForm.ofName?_eq_none {name : String} (hquote : name ≠ "quote")
    (hchoice : name ≠ "if") : ofName? name = none := by
  cases hname : ofName? name with
  | none => rfl
  | some special =>
      obtain rfl := name_of_ofName? hname
      cases special with
      | quote => exact absurd rfl hquote
      | choice => exact absurd rfl hchoice

/-- A text that calls a name evaluates to what the name gives on the
values of the operands. -/
theorem evaluateText_call {name : String} {text : List Char} {operands values : List Value}
    (hname : SpecialForm.ofName? name = none)
    (htext : Spells text (.items (.atom name) operands))
    (hvalues : operands.map evaluate = values.map .ok) :
    evaluateText ('(' :: (text ++ [')'])) = apply name values := by
  have hread : read ('(' :: (text ++ [')'])) = .ok (.list (.atom name :: operands)) :=
    read_eq_ok_iff_spells.2 htext.list
  rw [evaluateText_of_read hread, evaluate_call hname, mapM_eq_ok_iff.2 hvalues]
  rfl

/-- A name that is an atom and no special form, applied to values that
can be read back: the text of the call has the outcome of the
application, however the operands are written and whatever blanks are
between them. -/
theorem evaluateText_call_eq_apply {name : String} {values : List Value}
    (hatom : IsAtom name.toList) (hboolean : name ≠ "#t" ∧ name ≠ "#f")
    (hspecial : name ≠ "quote" ∧ name ≠ "if") (hvalues : ∀ v ∈ values, v.Readable) :
    evaluateText ('(' :: (name.toList ++ quotedOperands values ++ [')'])) = apply name values
      ∧ ∀ text, Operands values text →
          evaluateText ('(' :: (name.toList ++ text ++ [')'])) = apply name values := by
  have hcall (text : List Char) (h : Operands values text) :
      evaluateText ('(' :: (name.toList ++ text ++ [')'])) = apply name values := by
    obtain ⟨forms, hresults, hitems⟩ := h.spells hvalues
    have hname : Spells name.toList (.form (.atom name)) :=
      spells_name ⟨hatom, hboolean.1, hboolean.2⟩
    exact evaluateText_call (SpecialForm.ofName?_eq_none hspecial.1 hspecial.2)
      (hitems (.one hname)) hresults
  exact ⟨hcall _ (operands_quoted values), hcall⟩

/-- A list and an integer, written in two ways, for a name that takes
numbers. -/
theorem evaluateText_call_eq_apply_sum :
    apply "+" [.list [.atom "b", .str "c"], .int 4] =
        .error (.mismatch "number" (.list [.atom "b", .str "c"]))
      ∧ evaluateText "(+ '(b \"c\") '4)".toList =
        .error (.mismatch "number" (.list [.atom "b", .str "c"]))
      ∧ evaluateText "(+\t(quote\n(b \"c\")) 4)".toList =
        .error (.mismatch "number" (.list [.atom "b", .str "c"])) := by
  have hvalues : ∀ v ∈ [Value.list [.atom "b", .str "c"], .int 4], v.Readable := by decide
  have happly : apply "+" [.list [.atom "b", .str "c"], .int 4] =
      .error (.mismatch "number" (.list [.atom "b", .str "c"])) := by rfl
  have hatom : IsAtom "+".toList := by decide
  obtain ⟨hsimple, hother⟩ :=
    evaluateText_call_eq_apply hatom (by decide) (by decide) hvalues
  have htab : Run isBlank ['\t'] := Run.cons (by decide) (by simp)
  have hline : Run isBlank ['\n'] := Run.cons (by decide) (by simp)
  have hquoted : Operand (.list [.atom "b", .str "c"]) "(quote\n(b \"c\"))".toList :=
    .quotation hline
  have hrender : (Value.int 4).render = ['4'] := Value.render_int 4
  have hfour : Operand (.int 4) ['4'] := hrender ▸ .literal trivial
  have hoperands : quotedOperands [.list [.atom "b", .str "c"], .int 4] =
      " '(b \"c\") '4".toList := by
    rw [quotedOperands, List.flatMap_cons, List.flatMap_singleton, hrender]
    rfl
  rw [happly, hoperands] at hsimple
  rw [happly] at hother
  exact ⟨happly, hsimple, hother _ (.cons htab hquoted (.cons run_space hfour .nil))⟩

end PocketScheme
