/-
Equivalence of values, as the language tests it.

Two values are equivalent if they are of one kind and hold the same:
lists have equivalent items in the same order and number, and a dotted
list counts as the list of its items and then its tail.

The test takes its two values as a list of arguments, as every operation
does, and so do the tests of the items that it is made of. Comparing two
dotted lists builds two lists that are longer than their lists of items;
it is the weight of a value (`weight`) that gets smaller on the way.
-/
import PocketScheme.Failure

namespace PocketScheme.Value

/-- The items of a dotted list and then its tail. -/
def flatten (first : Value) (more : List Value) (tail : Value) : List Value :=
  first :: more ++ [tail]

-- ============================================================== weight

mutual

/-- The number of values in a value, a dotted list counted twice. -/
def weight : Value → Nat
  | list items => weightAll items + 1
  | dotted first more tail => first.weight + weightAll more + tail.weight + 2
  | _ => 1

/-- The weight of some values together. -/
def weightAll : List Value → Nat
  | [] => 0
  | v :: more => v.weight + weightAll more

end

theorem weightAll_append (before after : List Value) :
    weightAll (before ++ after) = weightAll before + weightAll after := by
  induction before with
  | nil => simp [weightAll]
  | cons v before ih =>
    simp only [List.cons_append, weightAll, ih]
    omega

theorem weight_le_of_mem {v : Value} {items : List Value} (h : v ∈ items) :
    v.weight ≤ weightAll items := by
  induction items with
  | nil => cases h
  | cons first more ih =>
    rw [weightAll]
    rcases List.mem_cons.1 h with rfl | h
    · omega
    · have := ih h
      omega

/-- A dotted list weighs more than the list of its items and its tail. -/
theorem weight_list_flatten_lt (first : Value) (more : List Value) (tail : Value) :
    (list (flatten first more tail)).weight < (dotted first more tail).weight := by
  simp only [flatten, List.cons_append, weight, weightAll, weightAll_append]
  omega

-- ============================================================= the test

/-- Whether a test says yes. One that fails says no. -/
def affirms : Except Failure Value → Bool
  | .ok (bool b) => b
  | _ => false

/-- The test for equivalence, which takes two arguments. -/
def eqv (arguments : List Value) : Except Failure Value :=
  match arguments with
  | [bool a, bool b] => .ok (bool (a == b))
  | [int m, int n] => .ok (bool (m == n))
  | [str s, str t] => .ok (bool (s == t))
  | [atom a, atom b] => .ok (bool (a == b))
  | [dotted x xs t, dotted y ys u] => eqv [list (flatten x xs t), list (flatten y ys u)]
  | [list xs, list ys] =>
    .ok (bool (xs.length == ys.length &&
      (xs.zip ys).attach.all fun ⟨(v, w), _⟩ => affirms (eqv [v, w])))
  | [_, _] => .ok (bool false)
  | _ => .error (.arity 2 arguments)
termination_by weightAll arguments
decreasing_by
  · have hleft := weight_list_flatten_lt x xs t
    have hright := weight_list_flatten_lt y ys u
    simp only [weightAll]
    omega
  · rename_i h
    have hleft := weight_le_of_mem (List.of_mem_zip h).1
    have hright := weight_le_of_mem (List.of_mem_zip h).2
    simp only [weightAll, weight]
    omega

end PocketScheme.Value
