/-
Reading accepts exactly the texts of the grammar. `Grammar.lean` shows
that what the grammar derives is taken; this file has the converse, and
with it the agreement.

# The invariant

`Reached` says of every state of the machine what text takes it there:
the frames of the state, outermost first, each have the text that opened
them (`Opens`), and the innermost one has, in addition, the phrase that
is complete inside it. One step of the machine keeps the invariant
(`Reached.step`); the text of the lexeme it takes goes to the end of the
text. Finishing a value is the one step that may close several frames at
once, since an apostrophe has no closing mark, and that is an induction
over the stack (`Opens.deliver`).

# Nothing is a dead end

Whatever a state has been reached by, some text brings the expression to
its end (`Reached.complete`): an `a` where an expression has to come
next, and a closing parenthesis for every list that is open. Because it
is said of the grammar, no care is needed about lexemes that meet where
the two texts do.
-/
import PocketScheme.Proofs.Reading.Grammar

namespace PocketScheme

open Text

namespace Reading

-- ========================================================= the invariant

/-- The texts that open a stack of frames, the innermost in front. -/
inductive Opens : List Char → List Frame → Prop where
  | nil : Opens [] []
  | quoted {text : List Char} {stack : List Frame} :
      Opens text stack → Opens (text ++ ['\'']) (.quoted :: stack)
  | firstItem {text : List Char} {stack : List Frame} :
      Opens text stack → Opens (text ++ ['(']) (.firstItem :: stack)
  | nextItem {text items space : List Char} {first : Value} {more : List Value}
      {stack : List Frame} :
      Opens text stack → Spells items (.items first more.reverse) → Run isBlank space →
      Opens (text ++ '(' :: (items ++ space)) (.nextItem first more :: stack)
  | tail {text items space space' : List Char} {first : Value} {more : List Value}
      {stack : List Frame} :
      Opens text stack → Spells items (.items first more.reverse) → Run isBlank space →
      Run isBlank space' →
      Opens (text ++ '(' :: (items ++ (space ++ '.' :: space'))) (.tail first more :: stack)

/-- The texts that take the machine to a state. -/
def Reached (text : List Char) : Reading → Prop
  | form stack => Opens text stack
  | opened stack => Opens text (.firstItem :: stack)
  | afterItem first more stack =>
      ∃ before items, text = before ++ '(' :: items ∧ Opens before stack
        ∧ Spells items (.items first more.reverse)
  | afterSpace first more stack => Opens text (.nextItem first more :: stack)
  | afterPoint first more stack =>
      ∃ before, text = before ++ ['.'] ∧ Opens before (.nextItem first more :: stack)
  | afterTail first more tail stack =>
      ∃ before last, text = before ++ last ∧ Opens before (.tail first more :: stack)
        ∧ Spells last (.form tail)
  | done v => Spells text (.form v)

/-- A value that is complete is handed to the frames around it. -/
theorem Opens.deliver {before : List Char} {stack : List Frame} (h : Opens before stack)
    {text : List Char} {v : Value} (hform : Spells text (.form v)) :
    Reached (before ++ text) (deliver v stack) := by
  -- only an apostrophe hands the value on to the frames around it
  induction h generalizing text v with
  | nil => exact hform
  | quoted _ ih =>
      rw [List.append_assoc]
      exact ih (.quoted hform)
  | @firstItem before stack hbefore _ =>
      exact ⟨before, text, List.append_assoc .., hbefore, .one hform⟩
  | @nextItem before items space first more stack hbefore hitems hspace _ =>
      refine ⟨before, items ++ (space ++ text), by simp, hbefore, ?_⟩
      rw [List.reverse_cons]
      exact .snoc hitems hspace hform
  | tail hbefore hitems hspace hspace' _ =>
      exact ⟨_, text, rfl, .tail hbefore hitems hspace hspace', hform⟩

theorem spells_ofAtom {text : List Char} (h : IsAtom text) :
    Spells text (.form (ofAtom text)) := by
  unfold ofAtom
  split
  · next htrue =>
      subst htrue
      exact .truth
  · next htrue =>
      split
      · next hfalse =>
          subst hfalse
          exact .falsity
      · next hfalse => exact .atom h htrue hfalse

/-- Starting an expression inside some frames keeps the invariant. -/
theorem Opens.start {before : List Char} {stack : List Frame} (h : Opens before stack)
    {kind : Kind} {lexeme : List Char} {p : Position} {reading : Reading}
    (hlexeme : IsLexeme kind lexeme)
    (hstart : start ⟨kind, lexeme, p⟩ stack = .ok reading) :
    Reached (before ++ lexeme) reading := by
  cases kind with
  | atom =>
      cases hstart
      exact h.deliver (spells_ofAtom hlexeme)
  | string =>
      cases hstart
      obtain ⟨body, hbody, rfl⟩ := hlexeme
      rw [unquote_quoted]
      exact h.deliver (.string hbody)
  | number =>
      cases hstart
      rw [Decimal.valueInParts_eq_value]
      exact h.deliver (.number hlexeme)
  | quote =>
      cases hstart
      obtain rfl : lexeme = ['\''] := hlexeme
      exact .quoted h
  | leftParen =>
      cases hstart
      obtain rfl : lexeme = ['('] := hlexeme
      exact .firstItem h
  | _ => cases hstart

/-- Every step keeps the invariant: the lexeme it takes goes to the end
of the text. -/
theorem Reached.step {text : List Char} {reading reading' : Reading} (h : Reached text reading)
    {kind : Kind} {lexeme : List Char} (hlexeme : IsLexeme kind lexeme)
    (hstep : reading.step ⟨kind, lexeme, {}⟩ = .ok reading') :
    Reached (text ++ lexeme) reading' := by
  cases reading with
  | form stack => exact Opens.start h hlexeme hstep
  | opened stack =>
      simp only [Reading.step] at hstep
      split at hstep
      · next hkind =>
          subst hkind
          cases hstep
          obtain rfl : lexeme = [')'] := hlexeme
          have hopens : Opens text (.firstItem :: stack) := h
          cases hopens with
          | firstItem hbefore =>
              rw [List.append_assoc]
              exact hbefore.deliver .empty
      · exact Opens.start h hlexeme hstep
  | afterItem first more stack =>
      obtain ⟨before, items, rfl, hbefore, hitems⟩ := h
      cases kind with
      | rightParen =>
          cases hstep
          obtain rfl : lexeme = [')'] := hlexeme
          rw [List.append_assoc]
          exact hbefore.deliver (.list hitems)
      | whitespace =>
          cases hstep
          rw [List.append_assoc]
          exact .nextItem hbefore hitems hlexeme
      | _ => cases hstep
  | afterSpace first more stack =>
      simp only [Reading.step] at hstep
      split at hstep
      · next hkind =>
          subst hkind
          cases hstep
          obtain rfl : lexeme = ['.'] := hlexeme
          exact ⟨text, rfl, h⟩
      · exact Opens.start h hlexeme hstep
  | afterPoint first more stack =>
      obtain ⟨before, rfl, hbefore⟩ := h
      simp only [Reading.step] at hstep
      split at hstep
      · next hkind =>
          subst hkind
          cases hstep
          cases hbefore with
          | nextItem hbefore hitems hspace =>
              show Opens _ (.tail first more :: stack)
              simpa using hbefore.tail hitems hspace hlexeme
      · cases hstep
  | afterTail first more tail stack =>
      obtain ⟨before, last, rfl, hbefore, hlast⟩ := h
      simp only [Reading.step] at hstep
      split at hstep
      · next hkind =>
          subst hkind
          cases hstep
          obtain rfl : lexeme = [')'] := hlexeme
          cases hbefore with
          | tail hbefore hitems hspace hspace' =>
              have hreached := hbefore.deliver (.dotted hitems hspace hspace' hlast)
              simpa using hreached
      · cases hstep
  | done v => cases hstep

/-- A stretch of a run keeps the invariant. -/
theorem Reached.takes {text more rest : List Char} {reading reading' : Reading}
    (h : Reached text reading) (htakes : Takes rest reading more reading') :
    Reached (text ++ more) reading' := by
  induction htakes generalizing text with
  | refl reading => rwa [List.append_nil]
  | step hlexeme _ hstep _ ih =>
      rw [← List.append_assoc]
      exact ih (h.step hlexeme hstep)

/-- What takes the machine from its first state to another is a text of
that state. -/
theorem reached_of_takes {text rest : List Char} {reading : Reading}
    (h : Takes rest (form []) text reading) : Reached text reading := by
  have hnil : Reached [] (form []) := Opens.nil
  exact hnil.takes h

-- =========================================================== completion

/-- An expression inside any frames can be completed. -/
theorem Opens.complete {before : List Char} {stack : List Frame} (h : Opens before stack)
    {text : List Char} {v : Value} (hform : Spells text (.form v)) :
    ∃ more w, Spells (before ++ (text ++ more)) (.form w) := by
  induction h generalizing text v with
  | nil => exact ⟨[], v, by simpa using hform⟩
  | quoted _ ih =>
      obtain ⟨more, w, hw⟩ := ih (.quoted hform)
      exact ⟨more, w, by simpa using hw⟩
  | firstItem _ ih =>
      obtain ⟨more, w, hw⟩ := ih (.list (.one hform))
      exact ⟨')' :: more, w, by simpa using hw⟩
  | nextItem _ hitems hspace ih =>
      obtain ⟨more, w, hw⟩ := ih (.list (.snoc hitems hspace hform))
      exact ⟨')' :: more, w, by simpa using hw⟩
  | tail _ hitems hspace hspace' ih =>
      obtain ⟨more, w, hw⟩ := ih (.dotted hitems hspace hspace' hform)
      exact ⟨')' :: more, w, by simpa using hw⟩

theorem spells_letter : Spells ['a'] (.form (.atom (.ofList ['a']))) :=
  .atom (by decide) (by decide) (by decide)

/-- Every state is on the way to a value. -/
theorem Reached.complete {text : List Char} {reading : Reading} (h : Reached text reading) :
    ∃ more v, Spells (text ++ more) (.form v) := by
  cases reading with
  | form | opened | afterSpace =>
      obtain ⟨more, v, hv⟩ := Opens.complete h spells_letter
      exact ⟨_, v, hv⟩
  | afterItem first more stack =>
      obtain ⟨before, items, rfl, hbefore, hitems⟩ := h
      obtain ⟨more, v, hv⟩ := hbefore.complete (.list hitems)
      exact ⟨')' :: more, v, by simpa using hv⟩
  | afterPoint first more stack =>
      obtain ⟨before, rfl, hbefore⟩ := h
      cases hbefore with
      | nextItem hbefore hitems hspace =>
          obtain ⟨more, v, hv⟩ := (hbefore.tail hitems hspace run_space).complete spells_letter
          exact ⟨' ' :: 'a' :: more, v, by simpa using hv⟩
  | afterTail first more tail stack =>
      obtain ⟨before, last, rfl, hbefore, hlast⟩ := h
      obtain ⟨more, v, hv⟩ := hbefore.complete hlast
      exact ⟨more, v, by simpa using hv⟩
  | done v => exact ⟨[], v, by rwa [List.append_nil]⟩

end Reading

-- ============================================================ agreement

open Reading

/-- Reading finds the value of a text of the grammar, and of no other. -/
theorem read_eq_ok_iff_spells {text : List Char} {v : Value} :
    read text = .ok v ↔ Spells text (.form v) := by
  rw [read_eq_ok_iff_takes]
  constructor
  · exact fun h => reached_of_takes h
  · intro h
    exact takesPhrase_of_spells h [] (stops_nil _) (form []) [] (begins_form [])

/-- Reading is the grammar: it finds the value of every text that the
grammar derives, refuses every other one as unreadable, and the grammar
gives no text two values. -/
theorem read_iff_spells_or_unreadable (text : List Char) :
    (∀ v, read text = .ok v ↔ Spells text (.form v))
      ∧ ((¬∃ v, Spells text (.form v)) →
          ∃ detail position, read text = .error (.unreadable detail position))
      ∧ ∀ v w, Spells text (.form v) → Spells text (.form w) → v = w := by
  refine ⟨fun v => read_eq_ok_iff_spells, fun hnone => ?_, fun v w hv hw => ?_⟩
  · cases hread : read text with
    | ok v => exact absurd ⟨v, read_eq_ok_iff_spells.1 hread⟩ hnone
    | error failure =>
        obtain ⟨taken, -, -, -, -, -, -, detail, rfl⟩ := exists_halts_of_read_error hread
        exact ⟨detail, _, rfl⟩
  · have hread := read_eq_ok_iff_spells.2 hv
    rw [read_eq_ok_iff_spells.2 hw] at hread
    cases hread
    rfl

end PocketScheme
