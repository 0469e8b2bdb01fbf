/-
What holds everywhere in a value: of the value itself, of every item of
a list, of the items and the tail of a dotted list, and so on inwards.

A property of this form is given by what it asks of one value, without
its parts (`p` below); the recursion is here, once for all of them.
-/
import PocketScheme.Value.Basic

namespace PocketScheme.Value

mutual

/-- Whether a property holds everywhere in a value. -/
def Every (p : Value → Prop) : Value → Prop
  | atom name => p (atom name)
  | int n => p (int n)
  | str text => p (str text)
  | bool b => p (bool b)
  | list items => p (list items) ∧ EveryItem p items
  | dotted first more tail =>
    p (dotted first more tail) ∧ first.Every p ∧ EveryItem p more ∧ tail.Every p

/-- Whether a property holds everywhere in each of some values. -/
def EveryItem (p : Value → Prop) : List Value → Prop
  | [] => True
  | v :: more => v.Every p ∧ EveryItem p more

end

variable {p : Value → Prop}

theorem everyItem_iff {items : List Value} :
    EveryItem p items ↔ ∀ v ∈ items, v.Every p := by
  induction items with
  | nil => simp [EveryItem]
  | cons v more ih => simp [EveryItem, ih]

theorem every_list_iff {items : List Value} :
    (list items).Every p ↔ p (list items) ∧ ∀ v ∈ items, v.Every p := by
  rw [Every, everyItem_iff]

theorem every_dotted_iff {first : Value} {more : List Value} {tail : Value} :
    (dotted first more tail).Every p ↔
      p (dotted first more tail) ∧ first.Every p ∧ (∀ v ∈ more, v.Every p) ∧ tail.Every p := by
  rw [Every, everyItem_iff]

mutual

/-- What holds everywhere in a value holds everywhere in its parts. -/
theorem Every.parts : ∀ {v : Value}, v.Every p → v.Every (Every p)
  | atom _, h | int _, h | str _, h | bool _, h => h
  | list _, h => ⟨h, EveryItem.parts h.2⟩
  | dotted _ _ _, h => ⟨h, h.2.1.parts, EveryItem.parts h.2.2.1, h.2.2.2.parts⟩

theorem EveryItem.parts : ∀ {items : List Value}, EveryItem p items → EveryItem (Every p) items
  | [], _ => trivial
  | _ :: _, h => ⟨h.1.parts, EveryItem.parts h.2⟩

end

mutual

/-- What can be decided of one value can be decided everywhere in one. -/
instance decEvery [DecidablePred p] : (v : Value) → Decidable (v.Every p)
  | atom name => inferInstanceAs (Decidable (p (atom name)))
  | int n => inferInstanceAs (Decidable (p (int n)))
  | str text => inferInstanceAs (Decidable (p (str text)))
  | bool b => inferInstanceAs (Decidable (p (bool b)))
  | list items =>
    have := decEveryItem items
    inferInstanceAs (Decidable (p (list items) ∧ EveryItem p items))
  | dotted first more tail =>
    have := decEvery first
    have := decEveryItem more
    have := decEvery tail
    inferInstanceAs
      (Decidable (p (dotted first more tail) ∧ first.Every p ∧ EveryItem p more ∧ tail.Every p))

instance decEveryItem [DecidablePred p] : (items : List Value) → Decidable (EveryItem p items)
  | [] => inferInstanceAs (Decidable True)
  | v :: more =>
    have := decEvery v
    have := decEveryItem more
    inferInstanceAs (Decidable (v.Every p ∧ EveryItem p more))

end

end PocketScheme.Value
