/-
The values of the language, which are also its programs.

A form that is read, a value that is computed and an item of a quoted
list are of one type. A proper list and a dotted list are different
constructors, as they are different things to every operation; a dotted
list has at least one item before its tail by construction. The tail of
a dotted list may itself be a list: such a value is not the list it
looks like, and only some constructions avoid it.

Equality is structural (`decEq`).
-/

namespace PocketScheme

/-- A value: an atom (a bare name), an integer, a string, a boolean, a
proper list, or a dotted list, whose items are its first one and `more`
and which ends in a tail. -/
inductive Value where
  | atom (name : String)
  | int (n : Int)
  | str (text : String)
  | bool (b : Bool)
  | list (items : List Value)
  | dotted (first : Value) (more : List Value) (tail : Value)
  deriving Repr, Inhabited

namespace Value

mutual

/-- Whether two values have the same constructor and the same contents. -/
def same : Value → Value → Bool
  | atom a, atom b => a == b
  | int m, int n => m == n
  | str s, str t => s == t
  | bool a, bool b => a == b
  | list xs, list ys => sameItems xs ys
  | dotted x xs t, dotted y ys u => same x y && sameItems xs ys && same t u
  | _, _ => false

/-- Whether two lists of values are the same, item by item. -/
def sameItems : List Value → List Value → Bool
  | [], [] => true
  | x :: xs, y :: ys => same x y && sameItems xs ys
  | _, _ => false

end

mutual

/-- The test for sameness is equality. -/
theorem same_iff : ∀ {v w : Value}, same v w = true ↔ v = w
  | atom _, w => by cases w <;> simp [same]
  | int _, w => by cases w <;> simp [same]
  | str _, w => by cases w <;> simp [same]
  | bool _, w => by cases w <;> simp [same]
  | list _, w => by cases w <;> simp [same, sameItems_iff]
  | dotted _ _ _, w => by cases w <;> simp [same, same_iff, sameItems_iff, and_assoc]

/-- The test for sameness of lists is equality. -/
theorem sameItems_iff : ∀ {xs ys : List Value}, sameItems xs ys = true ↔ xs = ys
  | [], ys => by cases ys <;> simp [sameItems]
  | _ :: _, ys => by cases ys <;> simp [sameItems, same_iff, sameItems_iff]

end

/-- Equality of values is decided by their structure. -/
instance decEq : DecidableEq Value := fun _ _ => decidable_of_iff _ same_iff

end Value

end PocketScheme
