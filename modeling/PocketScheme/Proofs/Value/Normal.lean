/-
Normal values: those in which no dotted list has a list for its tail.

A dotted list whose tail is a list of either kind is a second spelling of
a longer list. What the two have in common is the pairs that they are
made of (`pairs`), in which a list in the tail and further items are the
same thing. A value in front of another is a pair, whatever the other
is, and it is spelled normally if the two are. So a normal value can be
put together again from its pairs (`spell_pairs`), and no two normal
values spell one list (`eq_of_pairs_eq`).
-/
import PocketScheme.Proofs.Value.Kept

namespace PocketScheme

/-- A value as the pairs that it is made of. At the ends are the values
that are no pairs. -/
inductive Pairs where
  | leaf (v : Value)
  | pair (front rest : Pairs)

/-- The value that is put together from pairs. -/
def Pairs.spell : Pairs → Value
  | leaf v => v
  | pair front rest => front.spell.cons rest.spell

namespace Value

-- =============================================================== normal

/-- Whether a value itself is no dotted list with a list for its tail. -/
def Straight : Value → Prop
  | dotted _ _ tail => tail.IsScalar
  | _ => True

/-- Whether no dotted list anywhere in a value has a list for its
tail. -/
def Normal (v : Value) : Prop := v.Every Straight

instance : DecidablePred Straight
  | dotted _ _ tail => inferInstanceAs (Decidable tail.IsScalar)
  | atom _ | int _ | str _ | bool _ | list _ => isTrue trivial

instance : DecidablePred Normal := fun v => inferInstanceAs (Decidable (v.Every Straight))

/-- The operations on pairs leave no list in the tail of a dotted list. -/
theorem kept_straight : Kept Straight where
  int _ := trivial
  bool _ := trivial
  list _ := trivial
  dotted h := h
  pair _ _ h := h

-- ================================================================ pairs

mutual

/-- The pairs of a value. -/
def pairs : Value → Pairs
  | list items => pairsBefore items (.leaf (list []))
  | dotted first more tail => .pair first.pairs (pairsBefore more tail.pairs)
  | v => .leaf v

/-- The pairs of values in front of others. -/
def pairsBefore : List Value → Pairs → Pairs
  | [], rest => rest
  | v :: more, rest => .pair v.pairs (pairsBefore more rest)

end

/-- A value in front of another is a pair of the two. -/
theorem pairs_cons (v w : Value) : (v.cons w).pairs = .pair v.pairs w.pairs := by
  cases w <;> simp [cons, pairs, pairsBefore]

/-- A value that has a front and a rest is a pair of them. -/
theorem pairs_of_parts {p front rest : Value} (hfront : p.front? = some front)
    (hrest : p.rest? = some rest) : p.pairs = .pair front.pairs rest.pairs := by
  rcases parts_cases hfront hrest with ⟨more, rfl, rfl⟩ | rfl | ⟨second, more, tail, rfl, rfl⟩
  · simp only [pairs, pairsBefore]
  · simp only [pairs, pairsBefore]
  · simp only [pairs, pairsBefore]

/-- A list in the tail and further items make the same pairs. -/
example : (dotted (int 1) [] (list [int 2, int 3])).pairs =
    (list [int 1, int 2, int 3]).pairs := by rfl

theorem foldr_cons_list (items : List Value) : items.foldr cons (list []) = list items := by
  induction items with
  | nil => rfl
  | cons v items ih => rw [List.foldr_cons, ih, cons]

/-- Values in front of a value that is no list make a dotted list. -/
theorem cons_foldr_cons {tail : Value} (h : tail.IsScalar) (first : Value) (more : List Value) :
    first.cons (more.foldr cons tail) = dotted first more tail := by
  induction more generalizing first with
  | nil => exact cons_eq_dotted_iff.2 h
  | cons second more ih => rw [List.foldr_cons, ih, cons]

mutual

/-- A normal value is what is put together from its pairs. -/
theorem spell_pairs : ∀ {v : Value}, v.Normal → v.pairs.spell = v
  | atom _, _ | int _, _ | str _, _ | bool _, _ => rfl
  | list items, h => by
      rw [pairs, spell_pairsBefore h.2]
      exact foldr_cons_list items
  | dotted first more tail, h => by
      obtain ⟨htail, hfirst, hmore, hall⟩ := h
      rw [pairs, Pairs.spell, spell_pairs hfirst, spell_pairsBefore hmore, spell_pairs hall]
      exact cons_foldr_cons htail first more

theorem spell_pairsBefore : ∀ {items : List Value} {rest : Pairs},
    EveryItem Straight items → (pairsBefore items rest).spell = items.foldr cons rest.spell
  | [], _, _ => rfl
  | v :: more, rest, h => by
      rw [pairsBefore, Pairs.spell, spell_pairs h.1, spell_pairsBefore h.2, List.foldr_cons]

end

/-- No two normal values are made of the same pairs. -/
theorem eq_of_pairs_eq {v w : Value} (hv : v.Normal) (hw : w.Normal) (h : v.pairs = w.pairs) :
    v = w := by
  rw [← spell_pairs hv, h, spell_pairs hw]

/-- The front and the rest of a normal value make it again, as there is
no other normal spelling of the list. -/
theorem cons_eq_of_normal {p front rest : Value} (h : p.Normal) (hfront : p.front? = some front)
    (hrest : p.rest? = some rest) : front.cons rest = p := by
  have hcons : (front.cons rest).Normal :=
    (Every.front? h hfront).cons kept_straight (Every.rest? kept_straight h hrest)
  refine eq_of_pairs_eq hcons h ?_
  rw [pairs_cons, pairs_of_parts hfront hrest]

end Value

end PocketScheme
