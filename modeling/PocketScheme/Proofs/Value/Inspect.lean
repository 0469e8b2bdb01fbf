/-
The inspection text of a value is that of no other value.

The text starts with the name of a constructor, up to the first
parenthesis, so values with one text are of one kind (`inside_eq`). What
is inside the parentheses is one field or is made of fields that tell
where they end: a quoted text by its mark, digits by the parenthesis
behind them, items by the bracket behind the last one, which starts no
inspection text and is no comma.

The induction carries more than is asked for: an inspection text with
anything behind it determines the value and what is behind it
(`delimits_inspect`), as the text of an item is followed by those of the
others.
-/
import PocketScheme.Proofs.Text.Conversion
import PocketScheme.Proofs.Text.Quoted
import PocketScheme.Value.Inspect

namespace PocketScheme.Value

open Text

-- ========================================================= the two parts

/-- The constructors of values. -/
inductive Kind where
  | atom | int | str | bool | list | dotted
  deriving DecidableEq

/-- The name of a constructor. -/
def Kind.name : Kind → List Char
  | atom => "Atom".toList
  | int => "Integer".toList
  | str => "String".toList
  | bool => "Boolean".toList
  | list => "LispList".toList
  | dotted => "DottedPair".toList

/-- The constructor of a value. -/
def kind : Value → Kind
  | atom _ => .atom
  | int _ => .int
  | str _ => .str
  | bool _ => .bool
  | list _ => .list
  | dotted _ _ _ => .dotted

/-- The inspection texts of items, a comma and a space between each
two. -/
def inspectItems : List Value → List Char
  | [] => []
  | first :: more => first.inspect ++ inspectMore more

/-- What is in the parentheses of an inspection text. -/
def inside : Value → List Char
  | atom name => Quoted.encode name.toList
  | int n => Decimal.format n
  | str text => Quoted.encode text.toList
  | bool true => "True".toList
  | bool false => "False".toList
  | list items => '[' :: (inspectItems items ++ [']'])
  | dotted first more tail =>
    '[' :: (inspectItems (first :: more) ++ ']' :: ',' :: ' ' :: tail.inspect)

/-- An inspection text is a name and what is in the parentheses behind
it. -/
theorem inspect_eq (v : Value) : v.inspect = v.kind.name ++ '(' :: (v.inside ++ [')']) := by
  cases v with
  | atom name => rfl
  | int n => rfl
  | str text => rfl
  | bool b =>
      cases b with
      | true => rfl
      | false => rfl
  | list items =>
      cases items with
      | nil => rfl
      | cons first more =>
          show Kind.list.name ++ '(' :: '[' :: (inspectItems (first :: more) ++ [']', ')'])
            = Kind.list.name ++ '(' :: '[' :: (inspectItems (first :: more) ++ [']'] ++ [')'])
          rw [List.append_assoc]
          rfl
  | dotted first more tail =>
      show Kind.dotted.name ++ '(' :: '['
            :: (inspectItems (first :: more) ++ [']', ',', ' '] ++ tail.inspect ++ [')'])
          = Kind.dotted.name ++ '(' :: '['
            :: (inspectItems (first :: more) ++ ']' :: ',' :: ' ' :: tail.inspect ++ [')'])
      rw [List.append_assoc (inspectItems (first :: more))]
      rfl

theorem inspect_append (v : Value) (rest : List Char) :
    v.inspect ++ rest = v.kind.name ++ '(' :: (v.inside ++ ')' :: rest) := by
  rw [inspect_eq, List.append_assoc, List.cons_append, List.append_assoc]
  rfl

theorem Kind.name_inj {k l : Kind} (h : k.name = l.name) : k = l := by
  revert h
  cases k <;> cases l <;> decide

theorem parenthesis_not_mem_name (k : Kind) : '(' ∉ k.name := by
  cases k <;> decide

/-- Values whose texts are at the front of one longer text are of one
kind, and so is what they have in their parentheses. -/
theorem inside_eq {v w : Value} {rest rest' : List Char}
    (h : v.inspect ++ rest = w.inspect ++ rest') :
    v.kind = w.kind ∧ v.inside ++ ')' :: rest = w.inside ++ ')' :: rest' := by
  rw [inspect_append, inspect_append] at h
  obtain ⟨hname, hinside⟩ :=
    append_stop_inj (parenthesis_not_mem_name v.kind) (parenthesis_not_mem_name w.kind) h
  exact ⟨Kind.name_inj hname, hinside⟩

-- ======================================================== without values

theorem delimits_quoted (text : String) :
    Delimits (fun text : String => Quoted.encode text.toList) text := by
  intro other rest rest' h
  obtain ⟨htext, hrest⟩ := Quoted.delimits_encode text.toList _ _ _ h
  exact ⟨String.toList_inj.1 htext, hrest⟩

theorem delimits_atom (name : String) : Delimits inspect (atom name) := by
  intro w rest rest' h
  obtain ⟨hkind, hinside⟩ := inside_eq h
  cases w with
  | atom other =>
      obtain ⟨rfl, hrest⟩ := delimits_quoted name other _ _ hinside
      exact ⟨rfl, (List.cons.inj hrest).2⟩
  | _ => cases hkind

theorem delimits_str (text : String) : Delimits inspect (str text) := by
  intro w rest rest' h
  obtain ⟨hkind, hinside⟩ := inside_eq h
  cases w with
  | str other =>
      obtain ⟨rfl, hrest⟩ := delimits_quoted text other _ _ hinside
      exact ⟨rfl, (List.cons.inj hrest).2⟩
  | _ => cases hkind

theorem parenthesis_not_mem_format (n : Int) : ')' ∉ Decimal.format n := by
  rw [Decimal.format_eq_render]
  exact Decimal.not_mem_render (by decide) (by decide) n

theorem delimits_int (n : Int) : Delimits inspect (int n) := by
  intro w rest rest' h
  obtain ⟨hkind, hinside⟩ := inside_eq h
  cases w with
  | int m =>
      obtain ⟨hformat, hrest⟩ :=
        append_stop_inj (parenthesis_not_mem_format n) (parenthesis_not_mem_format m) hinside
      exact ⟨congrArg int (Decimal.format_inj.1 hformat), hrest⟩
  | _ => cases hkind

theorem parenthesis_not_mem_word (b : Bool) : ')' ∉ (bool b).inside := by
  cases b <;> decide

theorem delimits_bool (b : Bool) : Delimits inspect (bool b) := by
  intro w rest rest' h
  obtain ⟨hkind, hinside⟩ := inside_eq h
  cases w with
  | bool c =>
      obtain ⟨hword, hrest⟩ :=
        append_stop_inj (parenthesis_not_mem_word b) (parenthesis_not_mem_word c) hinside
      have hbc : b = c := by
        revert hword
        cases b <;> cases c <;> decide
      exact ⟨congrArg bool hbc, hrest⟩
  | _ => cases hkind

-- ================================================================= items

theorem bracket_ne_name (k : Kind) (rest rest' : List Char) : ']' :: rest ≠ k.name ++ rest' := by
  intro h
  cases k <;> exact absurd (List.cons.inj h).1 (by decide)

theorem bracket_ne_inspect (v : Value) (rest rest' : List Char) :
    ']' :: rest ≠ v.inspect ++ rest' := by
  rw [inspect_append]
  exact bracket_ne_name v.kind rest _

theorem inspectMore_eq_flatMap (items : List Value) :
    inspectMore items = items.flatMap fun v => ',' :: ' ' :: v.inspect := by
  induction items with
  | nil => rfl
  | cons v more ih =>
      rw [inspectMore, ih]
      rfl

/-- Items are told apart one by one, up to the bracket behind them. -/
theorem inspectItems_bracket_inj {xs ys : List Value} {rest rest' : List Char}
    (hxs : ∀ x ∈ xs, Delimits inspect x)
    (h : inspectItems xs ++ ']' :: rest = inspectItems ys ++ ']' :: rest') :
    xs = ys ∧ rest = rest' := by
  cases xs with
  | nil =>
      cases ys with
      | nil => exact ⟨rfl, (List.cons.inj h).2⟩
      | cons y ys =>
          rw [inspectItems, inspectItems, List.append_assoc] at h
          exact absurd h (bracket_ne_inspect y _ _)
  | cons x xs =>
      obtain ⟨hx, hxs⟩ := List.forall_mem_cons.1 hxs
      rw [inspectItems, List.append_assoc] at h
      cases ys with
      | nil => exact absurd h.symm (bracket_ne_inspect x _ _)
      | cons y ys =>
          rw [inspectItems, List.append_assoc] at h
          obtain ⟨rfl, hmore⟩ := hx y _ _ h
          have hseparated : ∀ x ∈ xs, Delimits (fun v => ',' :: ' ' :: v.inspect) x := by
            intro x hmem other rest rest' heq
            exact hxs x hmem other rest rest' (List.cons.inj (List.cons.inj heq).2).2
          rw [inspectMore_eq_flatMap, inspectMore_eq_flatMap] at hmore
          obtain ⟨rfl, hrest⟩ := flatMap_stop_inj (by simp) hseparated hmore
          exact ⟨rfl, hrest⟩

theorem inside_list_append (items : List Value) (rest : List Char) :
    (list items).inside ++ rest = '[' :: (inspectItems items ++ ']' :: rest) := by
  show '[' :: (inspectItems items ++ [']'] ++ rest) = _
  rw [List.append_assoc]
  rfl

theorem inside_dotted_append (first : Value) (more : List Value) (tail : Value)
    (rest : List Char) :
    (dotted first more tail).inside ++ rest
      = '[' :: (inspectItems (first :: more) ++ ']' :: ',' :: ' ' :: (tail.inspect ++ rest)) := by
  show '[' :: (inspectItems (first :: more) ++ ']' :: ',' :: ' ' :: tail.inspect ++ rest) = _
  rw [List.append_assoc]
  rfl

theorem delimits_list {items : List Value} (hitems : ∀ v ∈ items, Delimits inspect v) :
    Delimits inspect (list items) := by
  intro w rest rest' h
  obtain ⟨hkind, hinside⟩ := inside_eq h
  cases w with
  | list others =>
      rw [inside_list_append, inside_list_append] at hinside
      obtain ⟨rfl, hrest⟩ := inspectItems_bracket_inj hitems (List.cons.inj hinside).2
      exact ⟨rfl, (List.cons.inj hrest).2⟩
  | _ => cases hkind

theorem delimits_dotted {first : Value} {more : List Value} {tail : Value}
    (hitems : ∀ v ∈ first :: more, Delimits inspect v) (htail : Delimits inspect tail) :
    Delimits inspect (dotted first more tail) := by
  intro w rest rest' h
  obtain ⟨hkind, hinside⟩ := inside_eq h
  cases w with
  | dotted first' more' tail' =>
      rw [inside_dotted_append, inside_dotted_append] at hinside
      obtain ⟨hsame, hbehind⟩ := inspectItems_bracket_inj hitems (List.cons.inj hinside).2
      cases hsame
      obtain ⟨rfl, hrest⟩ := htail tail' _ _ (List.cons.inj (List.cons.inj hbehind).2).2
      exact ⟨rfl, (List.cons.inj hrest).2⟩
  | _ => cases hkind

-- ============================================================ all values

mutual

/-- An inspection text tells the value and where it ends. -/
theorem delimits_inspect : ∀ v : Value, Delimits inspect v
  | atom name => delimits_atom name
  | int n => delimits_int n
  | str text => delimits_str text
  | bool b => delimits_bool b
  | list items => delimits_list (delimits_inspect_items items)
  | dotted first more tail =>
    delimits_dotted
      (List.forall_mem_cons.2 ⟨delimits_inspect first, delimits_inspect_items more⟩)
      (delimits_inspect tail)

theorem delimits_inspect_items : ∀ items : List Value, ∀ v ∈ items, Delimits inspect v
  | [] => List.forall_mem_nil _
  | first :: more =>
    List.forall_mem_cons.2 ⟨delimits_inspect first, delimits_inspect_items more⟩

end

/-- Two values have one inspection text exactly if they are the same. -/
theorem inspect_eq_iff_same (v w : Value) : v.inspect = w.inspect ↔ same v w = true := by
  rw [same_iff]
  constructor
  · exact (delimits_inspect v).eq
  · intro h
    rw [h]

/-- The text that is printed does not tell as much: an atom may have the
name that the empty list is written with. -/
example : (atom "()").render = (list []).render := rfl

end PocketScheme.Value
