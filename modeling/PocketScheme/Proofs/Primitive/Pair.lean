/-
Values put in front of others, and taken off again.

What is put in front of a value comes off again and leaves that value,
whether it is a list, a dotted list or neither. So values that are put
in front one by one come off in the opposite order (`unstack_stack`).

The front of a pair and its rest, put together, are mostly the pair
again. The exception is the dotted list of a single item, whose rest is
the bare tail: if that is a list of either kind, the item becomes one of
its items and is no longer in front of it as a tail
(`cons_eq_iff_of_parts`).
-/
import PocketScheme.Proofs.Value.Coercion
import PocketScheme.Proofs.Value.Kept

namespace PocketScheme

namespace Value

/-- The parts of a pair make the pair again, unless it is a dotted list of
a single item with a list for its tail. -/
theorem cons_eq_iff_of_parts {p front rest : Value} (hfront : p.front? = some front)
    (hrest : p.rest? = some rest) :
    front.cons rest = p ↔ ¬∃ first tail, p = .dotted first [] tail ∧ ¬tail.IsScalar := by
  rcases parts_cases hfront hrest with ⟨more, rfl, rfl⟩ | rfl | ⟨second, more, tail, rfl, rfl⟩
  · simp [cons]
  · rw [cons_eq_dotted_iff]
    simp
  · simp [cons]

end Value

-- ======================================================= one after another

/-- Values put in front of another one by one, the last of them first. -/
def stack (values : List Value) (bottom : Value) : Except Failure Value :=
  values.foldrM (fun v w => Primitive.cons.apply [v, w]) bottom

/-- A number of values taken off one by one, in this order, and what they
leave. -/
def unstack : Nat → Value → Except Failure (List Value × Value)
  | 0, v => .ok ([], v)
  | count + 1, v => do
    let front ← Primitive.car.apply [v]
    let rest ← Primitive.cdr.apply [v]
    let (fronts, bottom) ← unstack count rest
    return (front :: fronts, bottom)

/-- A value that has been put in front comes off, and what it was put in
front of is left. -/
theorem car_cdr_cons (v w : Value) :
    Primitive.car.apply [v.cons w] = .ok v ∧ Primitive.cdr.apply [v.cons w] = .ok w := by
  constructor
  · exact part_eq_ok_iff.2 (Value.front?_cons v w)
  · exact part_eq_ok_iff.2 (Value.rest?_cons v w)

theorem stack_eq_ok (values : List Value) (bottom : Value) :
    stack values bottom = .ok (values.foldr Value.cons bottom) := by
  induction values with
  | nil => rfl
  | cons v values ih =>
      rw [stack] at ih ⊢
      rw [List.foldrM_cons, ih]
      rfl

/-- What is put in front one by one comes off in the opposite order. -/
theorem unstack_stack (values : List Value) (bottom : Value) :
    unstack values.length (values.foldr Value.cons bottom) = .ok (values, bottom) := by
  induction values with
  | nil => rfl
  | cons v values ih =>
      obtain ⟨hcar, hcdr⟩ := car_cdr_cons v (values.foldr Value.cons bottom)
      rw [List.foldr_cons, List.length_cons, unstack, hcar, hcdr]
      show unstack values.length (values.foldr Value.cons bottom) >>= _ = _
      rw [ih]
      rfl

-- ========================================================== pair by pair

/-- Whatever is put in front of any value comes off again. A value has a
front if and only if it has a rest, which are the lists with an item and
the dotted lists, and its parts make it again unless it is a dotted list
of a single item whose tail is a list of either kind. And as many values
as have been put in front of another come off again in order and leave
it. -/
theorem pairs_come_apart :
    (∀ v w, ∃ p, Primitive.cons.apply [v, w] = .ok p
        ∧ Primitive.car.apply [p] = .ok v ∧ Primitive.cdr.apply [p] = .ok w)
      ∧ (∀ p, ((∃ front, Primitive.car.apply [p] = .ok front) ↔ Role.pair.Suits p)
          ∧ ((∃ rest, Primitive.cdr.apply [p] = .ok rest) ↔ Role.pair.Suits p))
      ∧ (∀ p front rest, Primitive.car.apply [p] = .ok front → Primitive.cdr.apply [p] = .ok rest →
          (Primitive.cons.apply [front, rest] = .ok p ↔
            ¬∃ first tail, p = .dotted first [] tail ∧ ¬tail.IsScalar))
      ∧ ∀ values bottom, ∃ p, stack values bottom = .ok p
          ∧ unstack values.length p = .ok (values, bottom) := by
  refine ⟨fun v w => ⟨v.cons w, rfl, car_cdr_cons v w⟩,
    fun p => ⟨coerces_front?.ok_iff p, coerces_rest?.ok_iff p⟩, fun p front rest hcar hcdr => ?_,
    fun values bottom => ⟨_, stack_eq_ok values bottom, unstack_stack values bottom⟩⟩
  have hfront : p.front? = some front := part_eq_ok_iff.1 hcar
  have hrest : p.rest? = some rest := part_eq_ok_iff.1 hcdr
  rw [Primitive.apply, Except.ok.injEq, Value.cons_eq_iff_of_parts hfront hrest]

/-- Of the dotted list of an item and a list, the parts make a longer
list; of that of an item and a number they make it again. -/
theorem pairs_come_apart_tail :
    Primitive.car.apply [.dotted (.int 1) [] (.list [.int 2])] = .ok (.int 1)
      ∧ Primitive.cdr.apply [.dotted (.int 1) [] (.list [.int 2])] = .ok (.list [.int 2])
      ∧ Primitive.cons.apply [.int 1, .list [.int 2]] ≠
          .ok (.dotted (.int 1) [] (.list [.int 2]))
      ∧ Primitive.car.apply [.dotted (.int 1) [] (.int 2)] = .ok (.int 1)
      ∧ Primitive.cdr.apply [.dotted (.int 1) [] (.int 2)] = .ok (.int 2)
      ∧ Primitive.cons.apply [.int 1, .int 2] = .ok (.dotted (.int 1) [] (.int 2)) := by
  obtain ⟨-, -, hparts, -⟩ := pairs_come_apart
  refine ⟨rfl, rfl, fun hcons => ?_, rfl, rfl, (hparts _ _ _ rfl rfl).2 ?_⟩
  · exact (hparts _ _ _ rfl rfl).1 hcons ⟨.int 1, .list [.int 2], rfl, by decide⟩
  · intro hnested
    obtain ⟨first, tail, heq, htail⟩ := hnested
    cases heq
    exact htail (by decide)

end PocketScheme
