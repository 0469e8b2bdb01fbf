/-
Values as pairs: the front of a list, what follows it, and putting a
value in front.

A proper list with an item and every dotted list have a front. What
follows the front of a dotted list is a dotted list again, or the bare
tail once its last item is gone; `front?_cons` and `rest?_cons` say that
putting a value in front of any value can be undone.
-/
import PocketScheme.Value.Basic

namespace PocketScheme.Value

/-- The first item. -/
def front? : Value → Option Value
  | list (first :: _) => some first
  | dotted first _ _ => some first
  | _ => none

/-- What follows the first item. -/
def rest? : Value → Option Value
  | list (_ :: more) => some (list more)
  | dotted _ [] tail => some tail
  | dotted _ (second :: more) tail => some (dotted second more tail)
  | _ => none

/-- A value in front of another: a list becomes longer, anything else
becomes the tail of a dotted list with one item. -/
def cons (v : Value) : Value → Value
  | list items => list (v :: items)
  | dotted first more tail => dotted v (first :: more) tail
  | tail => dotted v [] tail

@[simp] theorem front?_cons (v w : Value) : (cons v w).front? = some v := by
  cases w <;> rfl

@[simp] theorem rest?_cons (v w : Value) : (cons v w).rest? = some w := by
  cases w <;> rfl

/-- A value with a front and a rest is a list, a dotted list that leaves
its bare tail, or one that leaves a dotted list. -/
theorem parts_cases {p front rest : Value} (hfront : p.front? = some front)
    (hrest : p.rest? = some rest) :
    (∃ more, p = list (front :: more) ∧ rest = list more)
      ∨ p = dotted front [] rest
      ∨ ∃ second more tail, p = dotted front (second :: more) tail
        ∧ rest = dotted second more tail := by
  cases p with
  | list items =>
      cases items with
      | nil => cases hfront
      | cons first more =>
          cases hfront
          cases hrest
          exact .inl ⟨more, rfl, rfl⟩
  | dotted first more tail =>
      cases hfront
      cases more with
      | nil =>
          cases hrest
          exact .inr (.inl rfl)
      | cons second more =>
          cases hrest
          exact .inr (.inr ⟨second, more, tail, rfl, rfl⟩)
  | _ => cases hfront

end PocketScheme.Value
