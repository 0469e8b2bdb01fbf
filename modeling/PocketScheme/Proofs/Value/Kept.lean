/-
Properties that the operations on pairs keep.

`Every` says of a property of single values that it holds everywhere in
a value. Taking the front or the rest of a list leaves parts of it, but
the rest of a dotted list is a new dotted list with fewer items, and a
value in front of another makes a new list as well. A property is kept
(`Kept`) if new values of these forms have it: lists always, and dotted
lists as long as their tail is that of a dotted list which has it, or is
no list of any kind.
-/
import PocketScheme.Proofs.Value.Every
import PocketScheme.Value.Pair

namespace PocketScheme.Value

/-- A value that is a list of neither kind. -/
def IsScalar : Value → Prop
  | list _ | dotted _ _ _ => False
  | _ => True

instance : DecidablePred IsScalar
  | list _ | dotted _ _ _ => isFalse not_false
  | atom _ | int _ | str _ | bool _ => isTrue trivial

/-- Only in front of a value that is no list a value makes a dotted list
of a single item. -/
theorem cons_eq_dotted_iff {v tail : Value} : v.cons tail = dotted v [] tail ↔ tail.IsScalar := by
  cases tail <;> simp [cons, IsScalar]

/-- A property of single values that what is computed from values with
it has as well. -/
structure Kept (p : Value → Prop) : Prop where
  int (n : Int) : p (.int n)
  bool (b : Bool) : p (.bool b)
  list (items : List Value) : p (.list items)
  dotted {first first' tail : Value} {more more' : List Value} :
    p (.dotted first more tail) → p (.dotted first' more' tail)
  pair (v : Value) {tail : Value} : IsScalar tail → p (.dotted v [] tail)

variable {p q : Value → Prop}

mutual

/-- What follows from a property of single values follows everywhere. -/
theorem Every.mono (himp : ∀ v, p v → q v) : ∀ {v : Value}, v.Every p → v.Every q
  | atom _, h | int _, h | str _, h | bool _, h => himp _ h
  | list _, h => ⟨himp _ h.1, EveryItem.mono himp h.2⟩
  | dotted _ _ _, h => ⟨himp _ h.1, h.2.1.mono himp, EveryItem.mono himp h.2.2.1, h.2.2.2.mono himp⟩

theorem EveryItem.mono (himp : ∀ v, p v → q v) :
    ∀ {items : List Value}, EveryItem p items → EveryItem q items
  | [], _ => trivial
  | _ :: _, h => ⟨h.1.mono himp, EveryItem.mono himp h.2⟩

end

theorem Every.front? {v w : Value} (h : v.Every p) (hfront : v.front? = some w) : w.Every p := by
  cases v with
  | list items =>
      cases items with
      | nil => cases hfront
      | cons first more =>
          cases hfront
          exact h.2.1
  | dotted first more tail =>
      cases hfront
      exact h.2.1
  | _ => cases hfront

theorem Every.rest? (hp : Kept p) {v w : Value} (h : v.Every p) (hrest : v.rest? = some w) :
    w.Every p := by
  cases v with
  | list items =>
      cases items with
      | nil => cases hrest
      | cons first more =>
          cases hrest
          exact ⟨hp.list more, h.2.2⟩
  | dotted first more tail =>
      obtain ⟨hself, -, hmore, htail⟩ := h
      cases more with
      | nil =>
          cases hrest
          exact htail
      | cons second more =>
          cases hrest
          exact ⟨hp.dotted hself, hmore.1, hmore.2, htail⟩
  | _ => cases hrest

theorem Every.cons (hp : Kept p) {v w : Value} (hv : v.Every p) (hw : w.Every p) :
    (cons v w).Every p := by
  cases w with
  | list items => exact ⟨hp.list (v :: items), hv, hw.2⟩
  | dotted first more tail =>
      obtain ⟨hself, hfirst, hmore, htail⟩ := hw
      exact ⟨hp.dotted hself, hv, ⟨hfirst, hmore⟩, htail⟩
  | _ => exact ⟨hp.pair v trivial, hv, trivial, hw⟩

end PocketScheme.Value
