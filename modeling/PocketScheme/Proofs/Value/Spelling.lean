/-
What the values that evaluation gives have in common, and how their texts
read.

They are spellable: their atoms and strings are ones that a text can
spell. Every readable value is, and every operation keeps it that way
(`kept_spelled`), since no operation makes a new atom or string. Only
arithmetic takes a value out of the readable ones, to an integer below
zero, whose text reads as an atom: a minus sign starts one and digits go
on with it.

`respell` puts these atoms in the place of their integers. The text stays
the same (`render_respell`) and the value becomes readable
(`readable_respell`), so it is this value that the text reads as.
-/
import PocketScheme.Proofs.Reading.RoundTrip
import PocketScheme.Proofs.Value.Kept

namespace PocketScheme.Value

open Text

-- ==================================================== spellable values

/-- What a value needs to be given by evaluation, apart from its parts:
what it needs to be read back, but that an integer may be negative. -/
def Spelled : Value → Prop
  | int _ => True
  | v => v.Legible

/-- Whether a value has only atoms and strings that a text can spell. -/
abbrev Spellable (v : Value) : Prop := v.Every Spelled

theorem Readable.spellable {v : Value} (h : v.Readable) : v.Spellable := by
  refine Every.mono (fun v hv => ?_) h
  cases v with
  | int n => trivial
  | _ => exact hv

theorem kept_spelled : Kept Spelled where
  int _ := trivial
  bool _ := trivial
  list _ := trivial
  dotted _ := trivial
  pair _ _ _ := trivial

-- ======================================================== negative integers

/-- Whether a value is no integer below zero. -/
def Nonnegative : Value → Prop
  | int n => 0 ≤ n
  | _ => True

instance decNonnegative : DecidablePred Nonnegative
  | int n => inferInstanceAs (Decidable (0 ≤ n))
  | atom _ | str _ | bool _ | list _ | dotted _ _ _ => inferInstanceAs (Decidable True)

mutual

/-- The value with the atom of its text in the place of every negative
integer. -/
def respell : Value → Value
  | int n => if n < 0 then atom (.ofList (Decimal.render n)) else int n
  | list items => list (respellAll items)
  | dotted first more tail => dotted first.respell (respellAll more) tail.respell
  | v => v

/-- Values with atoms in the place of their negative integers. -/
def respellAll : List Value → List Value
  | [] => []
  | v :: more => v.respell :: respellAll more

end

mutual

/-- The atoms have the texts of the integers. -/
theorem render_respell : ∀ v : Value, v.respell.render = v.render
  | int n => by
      rw [respell]
      split
      · rw [render, String.toList_ofList, render_int]
      · rfl
  | atom _ | str _ | bool _ => rfl
  | list [] => rfl
  | list (first :: more) => by
      simp only [respell, respellAll, render, render_respell first, renderMore_respellAll more]
  | dotted first more tail => by
      simp only [respell, render, render_respell first, renderMore_respellAll more,
        render_respell tail]

theorem renderMore_respellAll : ∀ items : List Value,
    renderMore (respellAll items) = renderMore items
  | [] => rfl
  | v :: more => by simp only [respellAll, renderMore, render_respell v, renderMore_respellAll more]

end

theorem legible_atom_render {n : Int} (h : n < 0) :
    (atom (.ofList (Decimal.render n))).Legible := by
  cases n with
  | ofNat n => exact absurd h (Int.not_lt.2 (Int.natCast_nonneg n))
  | negSucc n =>
      have hdigit (d : Char) (hd : d ∈ Nat.toDigits 10 (n + 1)) : continuesAtom d = true :=
        continuesAtom_of_isDigit (Nat.isDigit_of_mem_toDigits (by decide) (by decide) hd)
      have hname {name : String} (hhead : name.toList.head? ≠ some '-') :
          String.ofList ('-' :: Nat.toDigits 10 (n + 1)) ≠ name := by
        rintro rfl
        rw [String.toList_ofList] at hhead
        exact hhead rfl
      refine ⟨?_, hname (by decide), hname (by decide)⟩
      rw [Decimal.render, String.toList_ofList]
      exact ⟨by decide, hdigit⟩

mutual

theorem readable_respell : ∀ {v : Value}, v.Spellable → v.respell.Readable
  | int n, _ => by
      rw [respell]
      split
      · next h => exact legible_atom_render h
      · next h => exact Int.not_lt.1 h
  | atom _, h | str _, h | bool _, h => h
  | list _, h => ⟨trivial, readable_respellAll h.2⟩
  | dotted _ _ _, h =>
      ⟨trivial, readable_respell h.2.1, readable_respellAll h.2.2.1, readable_respell h.2.2.2⟩

theorem readable_respellAll : ∀ {items : List Value}, EveryItem Spelled items →
    EveryItem Legible (respellAll items)
  | [], _ => trivial
  | _ :: _, h => ⟨readable_respell h.1, readable_respellAll h.2⟩

end

mutual

/-- Only a value with a negative integer in it is spelled anew. -/
theorem respell_eq_self_iff : ∀ {v : Value}, v.respell = v ↔ v.Every Nonnegative
  | int n => by
      rw [respell, Every, Nonnegative]
      split
      · next h => simpa using h
      · next h => simpa using h
  | atom _ | str _ | bool _ => by simp [respell, Every, Nonnegative]
  | list _ => by simp [respell, Every, Nonnegative, respellAll_eq_self_iff]
  | dotted _ _ _ => by
      simp [respell, Every, Nonnegative, respell_eq_self_iff, respellAll_eq_self_iff]

theorem respellAll_eq_self_iff : ∀ {items : List Value},
    respellAll items = items ↔ EveryItem Nonnegative items
  | [] => by simp [respellAll, EveryItem]
  | _ :: _ => by simp [respellAll, EveryItem, respell_eq_self_iff, respellAll_eq_self_iff]

end

/-- The text of a spellable value reads as the value spelled anew. -/
theorem spells_render_respell {v : Value} (h : v.Spellable) :
    Spells v.render (.form v.respell) := by
  have hspells := spells_render v.respell (readable_respell h)
  rwa [render_respell] at hspells

end PocketScheme.Value
