/-
The classes of characters, held against each other: blanks, digits, the
characters of atoms, and the five characters that stand for themselves.
No character is in two of them, but for the digits, which go on an atom
and start none. That a text falls into lexemes in one way only rests on
nothing else.

Blanks and letters are tables, so their disjointness is checked on the
tables, range against range (`Ranges.apart`), and carried over to
characters by one lemma.

A text is spoken of by a class in two ways: as a non-empty run of its
characters (`Run`), and as one that does not go on with such a character
(`Stops`), which is where a run of them in front of it ends.
-/
import PocketScheme.Token.Lexeme

namespace PocketScheme.Text

-- ==================================================== tables kept apart

/-- Whether no range of one table meets a range of another. -/
def Ranges.apart (table other : Ranges) : Bool :=
  table.list.all fun range => other.list.all fun range' =>
    range.2 < range'.1 || range'.2 < range.1

/-- What one of two tables kept apart holds, the other does not. -/
theorem Ranges.not_holds_of_apart {table other : Ranges} (hapart : table.apart other = true)
    {n : Nat} (h : table.holds n = true) : other.holds n = false := by
  rw [Bool.eq_false_iff]
  intro h'
  obtain ⟨range, hmem, hlow, hhigh⟩ := (holds_iff table n).1 h
  obtain ⟨range', hmem', hlow', hhigh'⟩ := (holds_iff other n).1 h'
  simp only [apart, List.all_eq_true, Bool.or_eq_true, decide_eq_true_eq] at hapart
  rcases hapart range hmem range' hmem' with hbelow | habove
  · omega
  · omega

/-- The ASCII digits, as a table. -/
def digitRanges : Ranges where
  list := [(0x30, 0x39)]

theorem holds_digitRanges {c : Char} (h : c.isDigit = true) :
    digitRanges.holds c.toNat = true := by
  rw [Ranges.holds_iff]
  refine ⟨(0x30, 0x39), .head _, ?_⟩
  simpa [Char.isDigit, UInt32.le_iff_toNat_le] using h

theorem isBlank_of_isLetter {c : Char} (h : isLetter c = true) : isBlank c = false :=
  Ranges.not_holds_of_apart (by decide +kernel) h

theorem isBlank_of_isDigit {c : Char} (h : c.isDigit = true) : isBlank c = false :=
  Ranges.not_holds_of_apart (by decide) (holds_digitRanges h)

theorem isLetter_of_isDigit {c : Char} (h : c.isDigit = true) : isLetter c = false :=
  Ranges.not_holds_of_apart (by decide +kernel) (holds_digitRanges h)

-- ================================================= characters of atoms

/-- No symbol character is blank or a digit. -/
theorem symbolChars_plain {c : Char} (h : c ∈ symbolChars) :
    isBlank c = false ∧ c.isDigit = false := by
  have hall : symbolChars.all (fun c => !isBlank c && !c.isDigit) = true := by decide
  simpa using List.all_eq_true.1 hall c h

theorem isBlank_of_startsAtom {c : Char} (h : startsAtom c = true) :
    isBlank c = false := by
  simp only [startsAtom, Bool.or_eq_true, List.contains_iff_mem] at h
  rcases h with hsymbol | hletter
  · exact (symbolChars_plain hsymbol).1
  · exact isBlank_of_isLetter hletter

theorem isDigit_of_startsAtom {c : Char} (h : startsAtom c = true) :
    c.isDigit = false := by
  simp only [startsAtom, Bool.or_eq_true, List.contains_iff_mem] at h
  rcases h with hsymbol | hletter
  · exact (symbolChars_plain hsymbol).2
  · rw [Bool.eq_false_iff]
    intro hdigit
    rw [isLetter_of_isDigit hdigit] at hletter
    cases hletter

theorem continuesAtom_of_isBlank {c : Char} (h : isBlank c = true) :
    continuesAtom c = false := by
  rw [Bool.eq_false_iff]
  intro hcontinues
  simp only [continuesAtom, Bool.or_eq_true] at hcontinues
  rcases hcontinues with hdigit | hstarts
  · rw [isBlank_of_isDigit hdigit] at h
    cases h
  · rw [isBlank_of_startsAtom hstarts] at h
    cases h

theorem continuesAtom_of_startsAtom {c : Char} (h : startsAtom c = true) :
    continuesAtom c = true := by
  simp [continuesAtom, h]

theorem continuesAtom_of_isDigit {c : Char} (h : c.isDigit = true) :
    continuesAtom c = true := by
  simp [continuesAtom, h]

/-- The characters that stand for themselves, and the double quote. -/
def marks : List Char := ['\'', '(', ')', '.', '"']

/-- No mark is blank, and none goes on an atom. -/
theorem marks_plain {c : Char} (h : c ∈ marks) :
    isBlank c = false ∧ continuesAtom c = false := by
  have hall : marks.all (fun c => !isBlank c && !continuesAtom c) = true := by decide
  simpa using List.all_eq_true.1 hall c h

theorem not_mem_marks_of_continuesAtom {c : Char} (h : continuesAtom c = true) :
    c ∉ marks := by
  intro hmark
  rw [(marks_plain hmark).2] at h
  cases h

-- ======================================================= runs and stops

/-- A non-empty run of characters of a class. -/
def Run (class? : Char → Bool) (text : List Char) : Prop :=
  text ≠ [] ∧ ∀ c ∈ text, class? c = true

/-- A text that does not start with a character of a class. -/
def Stops (class? : Char → Bool) (text : List Char) : Prop :=
  ∀ c ∈ text.head?, class? c = false

@[simp] theorem stops_nil (class? : Char → Bool) : Stops class? [] := by
  simp [Stops]

@[simp] theorem stops_cons {class? : Char → Bool} {c : Char} {text : List Char} :
    Stops class? (c :: text) ↔ class? c = false := by
  simp [Stops]

/-- What ends a run of a class ends a run of any narrower one. -/
theorem Stops.of_imp {class? other? : Char → Bool} {text : List Char}
    (h : Stops class? text) (himp : ∀ {c}, other? c = true → class? c = true) :
    Stops other? text := by
  intro c hc
  rw [Bool.eq_false_iff]
  intro hother
  have hstop := h c hc
  rw [himp hother] at hstop
  cases hstop

/-- Only the first character matters to where a run ends. -/
theorem stops_append_cons {class? : Char → Bool} {text : List Char} {c : Char}
    (rest rest' : List Char) (h : Stops class? (text ++ c :: rest)) :
    Stops class? (text ++ c :: rest') := by
  cases text with
  | nil => simpa using h
  | cons d text => simpa using h

theorem Run.eq_cons {class? : Char → Bool} {text : List Char} (h : Run class? text) :
    ∃ c body, text = c :: body ∧ class? c = true ∧ ∀ d ∈ body, class? d = true := by
  obtain ⟨hne, hall⟩ := h
  obtain ⟨c, body, rfl⟩ := List.exists_cons_of_ne_nil hne
  exact ⟨c, body, rfl, hall c (.head _), fun d hd => hall d (.tail _ hd)⟩

theorem Run.cons {class? : Char → Bool} {c : Char} {body : List Char}
    (hc : class? c = true) (hbody : ∀ d ∈ body, class? d = true) :
    Run class? (c :: body) :=
  ⟨List.cons_ne_nil c body, List.forall_mem_cons.2 ⟨hc, hbody⟩⟩

/-- The longest run at the front of a text ends where the text stops. -/
theorem takeWhile_of_stops {class? : Char → Bool} {body rest : List Char}
    (hbody : ∀ d ∈ body, class? d = true) (hrest : Stops class? rest) :
    (body ++ rest).takeWhile class? = body := by
  rw [List.takeWhile_append_of_pos hbody]
  cases rest with
  | nil => simp
  | cons c rest => simp [stops_cons.1 hrest]

theorem dropWhile_of_stops {class? : Char → Bool} {body rest : List Char}
    (hbody : ∀ d ∈ body, class? d = true) (hrest : Stops class? rest) :
    (body ++ rest).dropWhile class? = rest := by
  rw [List.dropWhile_append_of_pos hbody]
  cases rest with
  | nil => rfl
  | cons c rest => simp [stops_cons.1 hrest]

theorem stops_dropWhile (class? : Char → Bool) (text : List Char) :
    Stops class? (text.dropWhile class?) := by
  intro c hc
  simpa [Option.mem_def.1 hc] using List.head?_dropWhile_not class? text

/-- Stripping the back of a text stops at the last character that is not
blank, and leaves all that is in front of it. -/
theorem stripBack_append_cons (before after : List Char) {c : Char} (hc : isBlank c = false) :
    stripBack (before ++ c :: after) = before ++ c :: stripBack after := by
  have hink : (c :: before.reverse).dropWhile isBlank = c :: before.reverse :=
    List.dropWhile_cons_of_neg (by simp [hc])
  have hreverse : (before ++ c :: after).reverse = after.reverse ++ c :: before.reverse := by simp
  rw [stripBack, stripBack, hreverse, List.dropWhile_append, hink]
  split
  · next hempty => simp [List.isEmpty_iff.1 hempty]
  · simp

end PocketScheme.Text
