/-
The text of a value read back: which values come back as themselves.

They are the readable ones, in which every atom has a name that is an
atom's text and no boolean's, no string holds a double quote and no
integer is negative. Both directions go through the grammar. The text
of a readable value is derived as that value (`spells_render`), by
recursion along the rendering. Conversely whatever the grammar derives
is readable (`Spells.readable`), so nothing has to be said of the text
of a value that is not: it may read back as something else, or not at
all, but only readable values are ever the outcome of reading.
-/
import PocketScheme.Proofs.Reading.Acceptance
import PocketScheme.Proofs.Value.Every

namespace PocketScheme

open Text

namespace Value

/-- What a value needs to be read back, apart from its parts. -/
def Legible : Value → Prop
  | atom name => IsAtom name.toList ∧ name ≠ "#t" ∧ name ≠ "#f"
  | str text => '"' ∉ text.toList
  | int n => 0 ≤ n
  | _ => True

instance decLegible : DecidablePred Legible
  | atom name => inferInstanceAs (Decidable (IsAtom name.toList ∧ name ≠ "#t" ∧ name ≠ "#f"))
  | str text => inferInstanceAs (Decidable ('"' ∉ text.toList))
  | int n => inferInstanceAs (Decidable (0 ≤ n))
  | bool _ | list _ | dotted _ _ _ => inferInstanceAs (Decidable True)

/-- Whether a value can be read back: it is legible everywhere. -/
abbrev Readable (v : Value) : Prop := v.Every Legible

end Value

open Value

-- =================================================== from value to text

/-- The text of an integer is its canonical one. -/
theorem Value.render_int (n : Int) : (int n).render = Decimal.render n := by
  rw [render, Decimal.format_eq_render]

theorem spells_int {n : Int} (h : 0 ≤ n) : Spells (int n).render (.form (.int n)) := by
  rw [render_int]
  cases n with
  | ofNat n =>
      have hrun : Run Char.isDigit (Nat.toDigits 10 n) :=
        ⟨Nat.toDigits_ne_nil, fun c hc => Nat.isDigit_of_mem_toDigits (by decide) (by decide) hc⟩
      have hspells := Spells.number hrun
      rwa [Decimal.value_toDigits] at hspells
  | negSucc n => exact absurd h (by omega)

theorem spells_name {name : String} (h : (atom name).Legible) :
    Spells name.toList (.form (.atom name)) := by
  obtain ⟨hatom, htrue, hfalse⟩ := h
  have hspells := Spells.atom hatom (fun heq => htrue (String.toList_inj.1 heq))
    (fun heq => hfalse (String.toList_inj.1 heq))
  rwa [String.ofList_toList] at hspells

mutual

/-- The text of a readable value is an expression with that value. -/
theorem spells_render : ∀ v : Value, v.Readable → Spells v.render (.form v)
  | .atom _, h => spells_name h
  | .int _, h => spells_int h
  | .str text, h => by
      have hspells := Spells.string (show '"' ∉ text.toList from h)
      rwa [String.ofList_toList] at hspells
  | .bool true, _ => .truth
  | .bool false, _ => .falsity
  | .list [], _ => .empty
  | .list (first :: more), ⟨_, hfirst, hmore⟩ =>
      .list (spells_renderMore more hmore (.one (spells_render first hfirst)))
  | .dotted first more tail, ⟨_, hfirst, hmore, htail⟩ => by
      have hitems := spells_renderMore more hmore (.one (spells_render first hfirst))
      have hspells := Spells.dotted hitems run_space run_space (spells_render tail htail)
      simpa [render] using hspells

/-- The texts of readable values, a space in front of each, are more
items. -/
theorem spells_renderMore : ∀ more : List Value, EveryItem Legible more →
    ∀ {text : List Char} {first : Value} {before : List Value},
      Spells text (.items first before) →
      Spells (text ++ renderMore more) (.items first (before ++ more))
  | [], _, text, first, before, h => by simpa [renderMore] using h
  | v :: more, ⟨hv, hmore⟩, text, first, before, h => by
      have hitems := spells_renderMore more hmore (h.snoc run_space (spells_render v hv))
      simpa [renderMore] using hitems

end

-- =================================================== from text to value

/-- What of a phrase is readable: its values. -/
def Phrase.Readable : Phrase → Prop
  | form v => v.Readable
  | items first more => first.Readable ∧ ∀ v ∈ more, v.Readable

/-- Whatever the grammar derives is readable. -/
theorem Spells.readable {text : List Char} {phrase : Phrase} (h : Spells text phrase) :
    phrase.Readable := by
  induction h with
  | truth => trivial
  | falsity => trivial
  | @atom text hatom htrue hfalse =>
      have hname {name : String} (hne : text ≠ name.toList) : String.ofList text ≠ name := by
        rintro rfl
        exact hne String.toList_ofList.symm
      refine ⟨?_, hname htrue, hname hfalse⟩
      rwa [String.toList_ofList]
  | string hbody =>
      show '"' ∉ (String.ofList _).toList
      rwa [String.toList_ofList]
  | number _ => exact Int.natCast_nonneg _
  | quoted _ ih =>
      have hquote : (Value.atom "quote").Readable := by decide
      exact every_list_iff.2 ⟨trivial, by simpa using ⟨hquote, ih⟩⟩
  | empty => exact every_list_iff.2 ⟨trivial, by simp⟩
  | list _ ih => exact every_list_iff.2 ⟨trivial, List.forall_mem_cons.2 ih⟩
  | dotted _ _ _ _ ih ih' => exact every_dotted_iff.2 ⟨trivial, ih.1, ih.2, ih'⟩
  | one _ ih => exact ⟨ih, by simp⟩
  | snoc _ _ _ ih ih' =>
      refine ⟨ih.1, fun v hv => ?_⟩
      rcases List.mem_append.1 hv with hv | hv
      · exact ih.2 v hv
      · rw [List.mem_singleton.1 hv]
        exact ih'

-- ======================================================= the round trip

/-- The text of a value reads back as that value exactly if the value is
readable. Every outcome of reading is, so that writing and reading again
changes nothing that was read. -/
theorem read_render_eq_ok_iff_readable (v : Value) :
    (read v.render = .ok v ↔ v.Readable)
      ∧ ∀ text, read text = .ok v → v.Readable ∧ read v.render = .ok v := by
  have hread : v.Readable → read v.render = .ok v := fun h =>
    read_eq_ok_iff_spells.2 (spells_render v h)
  have hreadable {text : List Char} (h : read text = .ok v) : v.Readable :=
    (read_eq_ok_iff_spells.1 h).readable
  exact ⟨⟨hreadable, hread⟩, fun text h => ⟨hreadable h, hread (hreadable h)⟩⟩

/-- An atom that is spelled with a space is readable at no depth. -/
example : ¬(Value.list [.str "b", .dotted (.atom "a b") [] (.int 0)]).Readable := by decide

end PocketScheme
