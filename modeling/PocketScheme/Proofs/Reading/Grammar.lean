/-
The grammar of expressions, as a relation between texts and values that
speaks neither of lexemes nor of a machine, and the first half of its
agreement with reading: what the grammar derives, the machine takes.

# The relation

One family instead of two mutual ones, so that induction on a derivation
is plain induction: a phrase is either an expression with its value or
the items inside a pair of parentheses with their values. Items are
added at the back, which is the order in which the machine collects
them.

# Completeness

A derivation says nothing about what follows its text, but the machine
looks one character ahead. So the induction carries the rest: whatever
follows must not go on an atom, and then the last lexeme ends where the
derivation ends. In a text that is derived, what follows an expression
is whitespace, a closing parenthesis or the end, and none of these goes
on an atom.

An expression can be started from three states of the machine, with the
same effect on every token that starts one; `Begins` is what the three
have in common.
-/
import PocketScheme.Proofs.Reading.Machine
import PocketScheme.Proofs.Text.Conversion

namespace PocketScheme

open Text

-- ========================================================== the grammar

/-- What a stretch of text may stand for: an expression, or the items of
a list, its first one and the others. -/
inductive Phrase where
  | form (v : Value)
  | items (first : Value) (more : List Value)

/-- The texts of phrases. -/
inductive Spells : List Char → Phrase → Prop where
  | truth : Spells ['#', 't'] (.form (.bool true))
  | falsity : Spells ['#', 'f'] (.form (.bool false))
  | atom {text : List Char} :
      IsAtom text → text ≠ ['#', 't'] → text ≠ ['#', 'f'] →
      Spells text (.form (.atom (.ofList text)))
  | string {body : List Char} :
      '"' ∉ body → Spells ('"' :: (body ++ ['"'])) (.form (.str (.ofList body)))
  | number {digits : List Char} :
      Run Char.isDigit digits → Spells digits (.form (.int (Decimal.value digits)))
  | quoted {text : List Char} {v : Value} :
      Spells text (.form v) →
      Spells ('\'' :: text) (.form (.list [.atom "quote", v]))
  | empty : Spells ['(', ')'] (.form (.list []))
  | list {text : List Char} {first : Value} {more : List Value} :
      Spells text (.items first more) →
      Spells ('(' :: (text ++ [')'])) (.form (.list (first :: more)))
  | dotted {text space space' text' : List Char} {first tail : Value} {more : List Value} :
      Spells text (.items first more) → Run isBlank space → Run isBlank space' →
      Spells text' (.form tail) →
      Spells ('(' :: (text ++ (space ++ '.' :: (space' ++ text')) ++ [')']))
        (.form (.dotted first more tail))
  | one {text : List Char} {v : Value} : Spells text (.form v) → Spells text (.items v [])
  | snoc {text space text' : List Char} {first v : Value} {more : List Value} :
      Spells text (.items first more) → Run isBlank space → Spells text' (.form v) →
      Spells (text ++ (space ++ text')) (.items first (more ++ [v]))

theorem run_space : Run isBlank [' '] := Run.cons (by decide) (by simp)

/-- No phrase starts with a blank. -/
theorem Spells.eq_cons {text : List Char} {phrase : Phrase} (h : Spells text phrase) :
    ∃ c rest, text = c :: rest ∧ isBlank c = false := by
  induction h with
  | @atom text hatom =>
      cases text with
      | nil => cases hatom
      | cons c rest => exact ⟨c, rest, rfl, isBlank_of_startsAtom hatom.1⟩
  | number hrun =>
      obtain ⟨c, rest, rfl, hc, -⟩ := hrun.eq_cons
      exact ⟨c, rest, rfl, isBlank_of_isDigit hc⟩
  | one _ ih => exact ih
  | snoc _ _ _ ih _ =>
      obtain ⟨c, rest, rfl, hc⟩ := ih
      exact ⟨c, _, rfl, hc⟩
  | _ => exact ⟨_, _, rfl, by decide⟩

/-- Where blanks run up to a phrase, the phrase ends them. -/
theorem Spells.stops_isBlank {text : List Char} {phrase : Phrase} (h : Spells text phrase)
    (rest : List Char) : Stops isBlank (text ++ rest) := by
  obtain ⟨c, text, rfl, hc⟩ := h.eq_cons
  exact stops_cons.2 hc

/-- A run of blanks goes on no atom. -/
theorem stops_continuesAtom_of_run {space : List Char} (h : Run isBlank space)
    (rest : List Char) : Stops continuesAtom (space ++ rest) := by
  obtain ⟨c, space, rfl, hc, -⟩ := h.eq_cons
  exact stops_cons.2 (continuesAtom_of_isBlank hc)

-- ======================================================== what is taken

namespace Reading

@[simp] theorem unquote_quoted (body : List Char) :
    unquote ('"' :: (body ++ ['"'])) = body := by
  simp [unquote]

/-- A state in which every token that starts an expression is taken as
the start of one inside some frames. -/
def Begins (reading : Reading) (stack : List Frame) : Prop :=
  ∀ token reading', start token stack = .ok reading' → reading.step token = .ok reading'

theorem begins_form (stack : List Frame) : Begins (form stack) stack :=
  fun _ _ h => h

theorem begins_opened (stack : List Frame) : Begins (opened stack) (.firstItem :: stack) := by
  intro token reading' h
  have hkind : token.kind ≠ .rightParen := by
    intro hkind
    simp [start, hkind] at h
  rw [step, if_neg hkind, h]

theorem begins_afterSpace (first : Value) (more : List Value) (stack : List Frame) :
    Begins (afterSpace first more stack) (.nextItem first more :: stack) := by
  intro token reading' h
  have hkind : token.kind ≠ .point := by
    intro hkind
    simp [start, hkind] at h
  rw [step, if_neg hkind, h]

/-- What it is for the machine to take a phrase in front of a rest: an
expression is handed to the frames that it began in, and items are
collected from an opening parenthesis on. -/
def TakesPhrase (rest text : List Char) : Phrase → Prop
  | .form v => ∀ reading stack, Begins reading stack → Takes rest reading text (deliver v stack)
  | .items first more =>
      ∀ stack, Takes rest (opened stack) text (afterItem first more.reverse stack)

theorem takes_atom {reading : Reading} {stack : List Frame} {text rest : List Char}
    (hbegins : Begins reading stack) (hatom : IsAtom text) (hrest : Stops continuesAtom rest) :
    Takes rest reading text (deliver (ofAtom text) stack) :=
  .single .atom hatom hrest (hbegins _ _ rfl)

/-- What stands between a pair of parentheses is taken with them. -/
theorem takes_parens {reading : Reading} {stack : List Frame} {text rest : List Char}
    {reading' reading'' : Reading} (hbegins : Begins reading stack)
    (hinside : Takes (')' :: rest) (opened stack) text reading')
    (hclose : ∀ token : Token, token.kind = .rightParen → reading'.step token = .ok reading'') :
    Takes rest reading ('(' :: (text ++ [')'])) reading'' := by
  have hopen : Takes (text ++ [')'] ++ rest) reading ['('] (opened stack) :=
    .single .leftParen rfl (fun _ _ => rfl) (hbegins _ _ rfl)
  have hclosed : Takes rest reading' [')'] reading'' :=
    .single .rightParen rfl (fun _ _ => rfl) (hclose _ rfl)
  exact hopen.trans (hinside.trans hclosed)

/-- Items are taken with the blanks after them. -/
theorem takes_items_space {text space rest : List Char} {first : Value} {more : List Value}
    (hitems : ∀ rest, Stops continuesAtom rest → TakesPhrase rest text (.items first more))
    (hspace : Run isBlank space) (hrest : Stops isBlank rest) (stack : List Frame) :
    Takes rest (opened stack) (text ++ space) (afterSpace first more.reverse stack) := by
  have htext := hitems (space ++ rest) (stops_continuesAtom_of_run hspace rest) stack
  have hblank : Takes rest (afterItem first more.reverse stack) space
      (afterSpace first more.reverse stack) := .single .whitespace hspace hrest rfl
  exact htext.trans hblank

/-- The machine takes every phrase that the rest does not go on. -/
theorem takesPhrase_of_spells {text : List Char} {phrase : Phrase} (h : Spells text phrase) :
    ∀ rest, Stops continuesAtom rest → TakesPhrase rest text phrase := by
  induction h with
  | truth =>
      intro rest hrest reading stack hbegins
      have hatom : IsAtom ['#', 't'] := by decide
      exact takes_atom hbegins hatom hrest
  | falsity =>
      intro rest hrest reading stack hbegins
      have hatom : IsAtom ['#', 'f'] := by decide
      exact takes_atom hbegins hatom hrest
  | @atom text hatom htrue hfalse =>
      intro rest hrest reading stack hbegins
      have htakes := takes_atom hbegins hatom hrest
      rwa [ofAtom, if_neg htrue, if_neg hfalse] at htakes
  | @string body hbody =>
      intro rest hrest reading stack hbegins
      refine .single .string ⟨body, hbody, rfl⟩ (fun _ _ => rfl) (hbegins _ _ ?_)
      rw [start, unquote_quoted]
  | number hrun =>
      intro rest hrest reading stack hbegins
      have hstops : Stops Char.isDigit rest := hrest.of_imp continuesAtom_of_isDigit
      refine .single .number hrun hstops (hbegins _ _ ?_)
      rw [start, Decimal.valueInParts_eq_value]
  | @quoted text v _ ih =>
      intro rest hrest reading stack hbegins
      have hquote : Takes (text ++ rest) reading ['\''] (form (.quoted :: stack)) :=
        .single .quote rfl (fun _ _ => rfl) (hbegins _ _ rfl)
      exact hquote.trans (ih rest hrest (form (.quoted :: stack)) _ (begins_form _))
  | empty =>
      intro rest hrest reading stack hbegins
      have hempty : Takes rest reading ('(' :: ([] ++ [')'])) (deliver (.list []) stack) :=
        takes_parens hbegins (.refl (opened stack)) fun token hkind => by rw [step, if_pos hkind]
      exact hempty
  | @list text first more _ ih =>
      intro rest hrest reading stack hbegins
      have hitems := ih (')' :: rest) (stops_cons.2 (by decide)) stack
      refine takes_parens hbegins hitems fun token hkind => ?_
      simp [step, hkind]
  | @dotted text space space' text' first tail more _ hspace hspace' htext' ih ih' =>
      intro rest hrest reading stack hbegins
      -- each stretch is taken in front of all that comes after it
      have hspaced : Takes ('.' :: (space' ++ text') ++ ')' :: rest) (opened stack)
          (text ++ space) (afterSpace first more.reverse stack) :=
        takes_items_space ih hspace (stops_cons.2 (by decide)) stack
      have hpoint : Takes (space' ++ text' ++ ')' :: rest) (afterSpace first more.reverse stack)
          ['.'] (afterPoint first more.reverse stack) :=
        .single .point rfl (fun _ _ => rfl) rfl
      have hspaced' : Takes (text' ++ ')' :: rest) (afterPoint first more.reverse stack)
          space' (form (.tail first more.reverse :: stack)) :=
        .single .whitespace hspace' (htext'.stops_isBlank _) rfl
      have htail := ih' (')' :: rest) (stops_cons.2 (by decide)) _ _
        (begins_form (.tail first more.reverse :: stack))
      have hinside := hspaced.trans (hpoint.trans (hspaced'.trans htail))
      rw [List.append_assoc] at hinside
      refine takes_parens hbegins hinside fun token hkind => ?_
      simp [deliver, step, hkind]
  | @one text v _ ih =>
      intro rest hrest stack
      exact ih rest hrest (opened stack) _ (begins_opened stack)
  | @snoc text space text' first v more _ hspace htext' ih ih' =>
      intro rest hrest stack
      have hspaced : Takes (text' ++ rest) (opened stack) (text ++ space)
          (afterSpace first more.reverse stack) :=
        takes_items_space ih hspace (htext'.stops_isBlank rest) stack
      have hitem := ih' rest hrest _ _ (begins_afterSpace first more.reverse stack)
      rw [List.reverse_append, ← List.append_assoc]
      exact hspaced.trans hitem

end Reading

end PocketScheme
