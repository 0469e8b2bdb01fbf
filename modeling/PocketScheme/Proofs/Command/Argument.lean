/-
Arguments by their spelling.

What an argument is comes out of taking it apart from the left. Here it
is said from the other side: how the texts are put together that ask for
switches (`Spelled`), and by what an argument shows that it is an option
at all, well spelled or not (`isOption`). An option that asks for no
switch is ambiguous, which shows in its first three characters, or it
gives a value to a switch.

What the two conventions differ in is how an option may end behind its
letters (`Ends`). Read apart, such an end is a text of its own
(`leftOver?`); an argument that is no option is one by all of its text.
-/
import PocketScheme.Command.Argument
import PocketScheme.Proofs.Text.Classes

namespace PocketScheme.Command

open Text

-- ============================================================ spellings

/-- Whether a character is the letter of a switch. -/
def isSwitchLetter (c : Char) : Bool := Switch.all.any fun switch => switch.letter = c

/-- How a text may end behind letters of switches if these are to count:
with them, or, read apart, with a text that starts with no such letter
and with neither of the marks of a value. -/
inductive Ends : Convention → List Char → Prop where
  | nothing (convention : Convention) : Ends convention []
  | rest {c : Char} (text : List Char) :
      isSwitchLetter c = false → c ≠ '=' → c ≠ '-' → Ends .apart (c :: text)

/-- The texts that ask for switches, and which ones. -/
inductive Spelled (convention : Convention) : List Char → List Switch → Prop where
  /-- Letters, together after one dash. -/
  | letters (first : Switch) (more : List Switch) {behind : List Char} :
      Ends convention behind →
        Spelled convention ('-' :: (first :: more).map Switch.letter ++ behind) (first :: more)
  /-- Letters with an equals sign after the first of them, which is passed
  over in reading a text as a whole. -/
  | joined (first second : Switch) (more : List Switch) :
      convention = .whole →
        Spelled convention ('-' :: first.letter :: '=' :: (second :: more).map Switch.letter)
          (first :: second :: more)
  /-- A word after two dashes, or how one starts. -/
  | word {switch : Switch} {cut : List Char} :
      cut ≠ [] → cut <+: switch.word → Spelled convention ('-' :: '-' :: cut) [switch]

theorem Spelled.exists_mem {convention : Convention} {text : List Char} {all : List Switch}
    (h : Spelled convention text all) : ∃ switch, switch ∈ all := by
  cases h with
  | _ => exact ⟨_, List.mem_cons_self⟩

/-- Whether an argument is an option: it starts with one dash and the
letter of a switch, or with two dashes and, up to an equals sign, how the
word of one starts. -/
def isOption : List Char → Bool
  | '-' :: '-' :: name =>
    Switch.all.any fun switch => (name.takeWhile (· != '=')).isPrefixOf switch.word
  | '-' :: c :: _ => isSwitchLetter c
  | _ => false

/-- Whether an option is how no word in particular starts. -/
def Ambiguous (text : List Char) : Prop := ['-', '-', '='] <+: text

/-- What characters behind the dash of an option leave over, with a dash of
its own: read apart, all from the first on that is no letter of a switch,
unless it makes a value. -/
def leftOver? : Convention → List Char → Option (List Char)
  | .whole, _ => none
  | .apart, letters =>
    match letters.dropWhile isSwitchLetter with
    | [] | '=' :: _ | '-' :: _ => none
    | behind => some ('-' :: behind)

/-- The text that an argument has for the place of the expression: its own
if it is no option, else what it leaves over. -/
def candidate? (convention : Convention) (text : List Char) : Option (List Char) :=
  if isOption text then leftOver? convention text.tail else some text

namespace Switch

theorem letter_ne_dash (switch : Switch) : switch.letter ≠ '-' := by
  cases switch <;> decide

@[simp] theorem ofLetter?_letter (switch : Switch) : ofLetter? switch.letter = some switch := by
  cases switch <;> decide

theorem letter_of_ofLetter? {c : Char} {switch : Switch} (h : ofLetter? c = some switch) :
    switch.letter = c := by
  simpa using List.find?_some h

theorem ofLetter?_eq_none_iff {c : Char} : ofLetter? c = none ↔ isSwitchLetter c = false := by
  rw [ofLetter?, isSwitchLetter, List.find?_eq_none, List.any_eq_false]

theorem isSwitchLetter_of_ofLetter? {c : Char} {switch : Switch} (h : ofLetter? c = some switch) :
    isSwitchLetter c = true := by
  rw [← Bool.not_eq_false, ← ofLetter?_eq_none_iff, h]
  exact Option.some_ne_none switch

@[simp] theorem isSwitchLetter_letter (switch : Switch) : isSwitchLetter switch.letter = true :=
  isSwitchLetter_of_ofLetter? (ofLetter?_letter switch)

theorem word_eq_cons (switch : Switch) : ∃ rest, switch.word = switch.letter :: rest := by
  cases switch with
  | help => exact ⟨['e', 'l', 'p'], by decide⟩
  | verbose => exact ⟨['e', 'r', 'b', 'o', 's', 'e'], by decide⟩

/-- How a word starts tells it from the others, as their first letters
differ. -/
theorem eq_of_starts {switch switch' : Switch} {cut : List Char} (hne : cut ≠ [])
    (h : cut <+: switch.word) (h' : cut <+: switch'.word) : switch = switch' := by
  obtain ⟨c, cut, rfl⟩ := List.exists_cons_of_ne_nil hne
  obtain ⟨rest, hword⟩ := word_eq_cons switch
  obtain ⟨rest', hword'⟩ := word_eq_cons switch'
  rw [hword] at h
  rw [hword'] at h'
  have hletter := (List.cons_prefix_cons.1 h).1.symm.trans (List.cons_prefix_cons.1 h').1
  rw [← Option.some_inj, ← ofLetter?_letter switch, hletter, ofLetter?_letter]

theorem equals_not_mem_word (switch : Switch) : '=' ∉ switch.word := by
  cases switch <;> decide

theorem startingWith_eq_singleton {switch : Switch} {cut : List Char} (hne : cut ≠ [])
    (h : cut <+: switch.word) : startingWith cut = [switch] := by
  have hsame : startingWith cut = all.filter (· = switch) := by
    refine List.filter_congr fun other _ => ?_
    rw [Bool.eq_iff_iff, List.isPrefixOf_iff_prefix, decide_eq_true_iff]
    exact ⟨fun hother => eq_of_starts hne hother h, fun hother => hother ▸ h⟩
  rw [hsame]
  cases switch <;> rfl

theorem prefix_of_mem_startingWith {switch : Switch} {cut : List Char}
    (h : switch ∈ startingWith cut) : cut <+: switch.word :=
  List.isPrefixOf_iff_prefix.1 (List.mem_filter.1 h).2

/-- A text is how one word starts and no other unless it is empty. -/
theorem startingWith_eq_singleton_iff {switch : Switch} {cut : List Char} :
    startingWith cut = [switch] ↔ cut ≠ [] ∧ cut <+: switch.word := by
  refine ⟨fun h => ⟨?_, prefix_of_mem_startingWith (by simp [h])⟩, fun h =>
    startingWith_eq_singleton h.1 h.2⟩
  rintro rfl
  have hall : startingWith [] = [help, verbose] := rfl
  simp [hall] at h

theorem startingWith_eq_nil_iff {cut : List Char} :
    startingWith cut = [] ↔ (all.any fun switch => cut.isPrefixOf switch.word) = false := by
  rw [startingWith, List.filter_eq_nil_iff, List.any_eq_false]

theorem any_of_startingWith_ne_nil {cut : List Char} (h : startingWith cut ≠ []) :
    (all.any fun switch => cut.isPrefixOf switch.word) = true := by
  rw [← Bool.not_eq_false]
  exact mt startingWith_eq_nil_iff.2 h

end Switch

namespace Argument

open Switch

/-- Whether an argument is an option, well spelled or not. -/
def isOption : Argument → Bool
  | switches _ _ | valued _ _ | ambiguous _ => true
  | expression _ | unknown _ => false

-- ============================================================== letters

section Letters

variable {convention : Convention} {before all : List Switch} {switch : Switch}
  {letters text : List Char}

/-- Behind a text that starts with no letter of a switch, the switches
before it count only if it is left over. -/
theorem breakOff_eq_switches_iff {c : Char} {rest : List Char}
    (hletter : isSwitchLetter c = false) :
    (∃ leftOver, breakOff convention before switch (c :: rest) = switches all leftOver) ↔
      Ends convention (c :: rest) ∧ all = before ++ [switch] := by
  unfold breakOff
  split
  · refine iff_of_false (by simp) fun h => ?_
    cases h.1
  · next value hequals =>
      refine iff_of_false (by simp) fun h => ?_
      cases h.1 with
      | rest _ _ hne _ => exact hne (List.cons.inj hequals).1
  · next value hdash =>
      refine iff_of_false (by simp) fun h => ?_
      cases h.1 with
      | rest _ _ _ hne => exact hne (List.cons.inj hdash).1
  · next hequals hdash =>
      have hends : Ends .apart (c :: rest) := by
        refine .rest rest hletter (fun h => ?_) fun h => ?_
        · exact hequals rest (by rw [h])
        · exact hdash rest (by rw [h])
      simp [hends, eq_comm]

/-- Behind a switch, letters of switches count with how a text may end
behind them, and nothing else does. -/
theorem cluster_eq_switches_iff :
    (∃ leftOver, cluster convention before switch letters = switches all leftOver) ↔
      ∃ (more : List Switch) (behind : List Char), letters = more.map Switch.letter ++ behind
        ∧ Ends convention behind ∧ all = before ++ switch :: more := by
  induction letters generalizing before switch with
  | nil =>
      simp only [cluster, switches.injEq, exists_and_left, exists_eq', and_true]
      constructor
      · rintro rfl
        exact ⟨[], [], rfl, .nothing convention, rfl⟩
      · rintro ⟨more, behind, hnil, -, rfl⟩
        obtain ⟨hmore, -⟩ := List.append_eq_nil_iff.1 hnil.symm
        rw [List.map_eq_nil_iff.1 hmore]
  | cons c letters ih =>
      rw [cluster]
      cases hc : ofLetter? c with
      | none =>
          have hletter := ofLetter?_eq_none_iff.1 hc
          rw [breakOff_eq_switches_iff hletter]
          constructor
          · rintro ⟨hends, rfl⟩
            exact ⟨[], c :: letters, rfl, hends, rfl⟩
          · rintro ⟨more, behind, hmore, hends, rfl⟩
            cases more with
            | nil => exact ⟨by rwa [hmore], rfl⟩
            | cons next more =>
                obtain ⟨rfl, -⟩ := List.cons.inj hmore
                simp at hletter
      | some next =>
          obtain rfl := letter_of_ofLetter? hc
          simp only [ih]
          constructor
          · rintro ⟨more, behind, rfl, hends, rfl⟩
            exact ⟨next :: more, behind, rfl, hends, by simp⟩
          · rintro ⟨more, behind, hmore, hends, rfl⟩
            cases more with
            | nil =>
                -- An end starts with no letter, so this is none.
                rw [List.map_nil, List.nil_append] at hmore
                rw [← hmore] at hends
                cases hends with
                | rest _ hnone _ _ => simp at hnone
            | cons other more =>
                obtain ⟨hother, hletters⟩ := List.cons.inj hmore
                rw [hother, ofLetter?_letter] at hc
                obtain rfl := Option.some.inj hc
                exact ⟨more, behind, hletters, hends, by simp⟩

theorem leftOver?_cons_letter (switch : Switch) (letters : List Char) :
    leftOver? convention (switch.letter :: letters) = leftOver? convention letters := by
  cases convention with
  | whole => rfl
  | apart => rw [leftOver?, leftOver?, List.dropWhile_cons_of_pos (isSwitchLetter_letter switch)]

theorem leftOver?_cons_dash (convention : Convention) (name : List Char) :
    leftOver? convention ('-' :: name) = none := by
  cases convention <;> rfl

theorem text?_breakOff {c : Char} {rest : List Char} (hletter : isSwitchLetter c = false) :
    (breakOff convention before switch (c :: rest)).text? = leftOver? convention (c :: rest) := by
  cases convention with
  | whole => rfl
  | apart =>
      have hdrop : (c :: rest).dropWhile isSwitchLetter = c :: rest :=
        List.dropWhile_cons_of_neg (by simp [hletter])
      rw [leftOver?, hdrop]
      by_cases hequals : c = '='
      · rw [hequals]
        rfl
      by_cases hdash : c = '-'
      · rw [hdash]
        rfl
      · simp [breakOff, hequals, hdash, text?]

theorem text?_cluster :
    (cluster convention before switch letters).text? = leftOver? convention letters := by
  induction letters generalizing before switch with
  | nil => cases convention <;> rfl
  | cons c letters ih =>
      rw [cluster]
      cases hc : ofLetter? c with
      | none => exact text?_breakOff (ofLetter?_eq_none_iff.1 hc)
      | some next =>
          obtain rfl := letter_of_ofLetter? hc
          rw [leftOver?_cons_letter]
          exact ih

theorem isOption_breakOff : (breakOff convention before switch text).isOption = true := by
  unfold breakOff
  split <;> rfl

theorem isOption_cluster : (cluster convention before switch letters).isOption = true := by
  induction letters generalizing before switch with
  | nil => rfl
  | cons c letters ih =>
      rw [cluster]
      split
      · exact ih
      · exact isOption_breakOff

theorem cluster_ne_ambiguous : cluster convention before switch letters ≠ ambiguous text := by
  induction letters generalizing before switch with
  | nil => simp [cluster]
  | cons c letters ih =>
      rw [cluster]
      split
      · exact ih
      · unfold breakOff
        split <;> simp

end Letters

-- ============================================================ arguments

section Texts

variable {convention : Convention} {text : List Char} {all : List Switch}

theorem text?_other (text : List Char) : (other text).text? = some text := by
  rw [other]
  split <;> rfl

theorem isOption_other (text : List Char) : (other text).isOption = false := by
  rw [other]
  split <;> rfl

theorem other_ne {argument : Argument} (h : argument.isOption = true) : other text ≠ argument := by
  intro hsame
  have hother := isOption_other text
  rw [hsame, h] at hother
  cases hother

/-- An argument is an option by how it starts. -/
theorem isOption_ofText (convention : Convention) (text : List Char) :
    (ofText convention text).isOption = Command.isOption text := by
  rw [ofText.eq_def]
  split
  · next name =>
      rw [Command.isOption]
      split
      · next hnone => rw [startingWith_eq_nil_iff.1 hnone, isOption_other]
      · next switch hone =>
          rw [any_of_startingWith_ne_nil (by simp [hone])]
          split <;> rfl
      · next hnone _ =>
          rw [any_of_startingWith_ne_nil hnone]
          rfl
  · next c rest hne =>
      rw [Command.isOption.eq_2 c rest hne]
      split
      · next hnone => rw [ofLetter?_eq_none_iff.1 hnone, isOption_other]
      · next switch hsome =>
          rw [isSwitchLetter_of_ofLetter? hsome]
          split <;> first | rfl | exact isOption_cluster
  · next hword hletter =>
      rw [Command.isOption.eq_3 text hword hletter]
      rfl

/-- What an argument has for the place of the expression shows in its
spelling. -/
theorem text?_ofText (convention : Convention) (text : List Char) :
    (ofText convention text).text? = candidate? convention text := by
  rw [candidate?, ← isOption_ofText convention, ofText.eq_def]
  split
  · rw [List.tail_cons, leftOver?_cons_dash]
    split
    · rw [isOption_other, text?_other]
      rfl
    · split <;> rfl
    · rfl
  · split
    · rw [isOption_other, text?_other]
      rfl
    · next switch hsome =>
        obtain rfl := letter_of_ofLetter? hsome
        rw [List.tail_cons, leftOver?_cons_letter]
        split
        · rfl
        · rw [isOption_cluster, text?_cluster]
          rfl
        · rw [isOption_cluster, text?_cluster]
          rfl
  · rfl

/-- Letters behind the first are taken as they are, unless an equals sign
stands in between that is passed over. -/
theorem ofText_letter {switch : Switch} {letters : List Char}
    (h : convention = .whole → letters.head? ≠ some '=') :
    ofText convention ('-' :: switch.letter :: letters) =
      cluster convention [] switch letters := by
  rw [ofText.eq_2 _ _ _ (letter_ne_dash switch), ofLetter?_letter]
  dsimp only
  split
  · exact absurd rfl (h rfl)
  · exact absurd rfl (h rfl)
  · rfl

/-- The arguments that are switches are the ones that are spelled so. -/
theorem ofText_eq_switches_iff :
    (∃ leftOver, ofText convention text = switches all leftOver) ↔
      Spelled convention text all := by
  constructor
  · rintro ⟨leftOver, h⟩
    rw [ofText.eq_def] at h
    split at h
    · next name =>
        split at h
        · exact absurd h (other_ne rfl)
        · next switch hone =>
            split at h
            · next hall =>
                cases h
                obtain ⟨hne, hcut⟩ := startingWith_eq_singleton_iff.1 hone
                have hname := List.takeWhile_append_dropWhile (p := (· != '=')) (l := name)
                rw [hall, List.append_nil] at hname
                rw [hname] at hne hcut
                exact .word hne hcut
            · cases h
        · cases h
    · next c rest hne =>
        split at h
        · exact absurd h (other_ne rfl)
        · next switch hsome =>
            obtain rfl := letter_of_ofLetter? hsome
            split at h
            · cases h
            · next letters hletters =>
                obtain ⟨more, behind, rfl, hends, rfl⟩ := cluster_eq_switches_iff.1 ⟨_, h⟩
                cases hends
                rw [List.append_nil] at hletters ⊢
                cases more with
                | nil => exact absurd rfl hletters
                | cons second more => exact .joined switch second more rfl
            · obtain ⟨more, behind, rfl, hends, rfl⟩ := cluster_eq_switches_iff.1 ⟨_, h⟩
              exact .letters switch more hends
    · cases h
  · intro h
    cases h with
    | @letters first more behind hends =>
        have hcluster : ∃ leftOver, cluster convention [] first (more.map letter ++ behind) =
            switches (first :: more) leftOver :=
          cluster_eq_switches_iff.2 ⟨more, behind, rfl, hends, rfl⟩
        rw [List.map_cons, List.cons_append, List.cons_append, ofText_letter]
        · exact hcluster
        · rintro rfl
          cases hends
          cases more with
          | nil => simp
          | cons second more => cases second <;> simp [letter]
    | joined first second more hwhole =>
        rw [ofText.eq_2 _ _ _ (letter_ne_dash first), ofLetter?_letter, hwhole]
        exact cluster_eq_switches_iff.2 ⟨second :: more, [], by simp, .nothing _, rfl⟩
    | @word switch cut hne hcut =>
        have hall : ∀ c ∈ cut, (c != '=') = true := fun c hc => by
          rw [bne_iff_ne]
          rintro rfl
          exact equals_not_mem_word switch (hcut.subset hc)
        have htake := takeWhile_of_stops hall (stops_nil _)
        have hdrop := dropWhile_of_stops hall (stops_nil _)
        rw [List.append_nil] at htake hdrop
        rw [ofText.eq_1, htake, hdrop, startingWith_eq_singleton hne hcut]
        exact ⟨none, rfl⟩

/-- An argument with no word in particular is ambiguous; the separator,
which is none, would be as well. -/
theorem ofText_eq_ambiguous_iff {text' : List Char} :
    ofText convention text = ambiguous text' ↔
      text' = text ∧ (text = ['-', '-'] ∨ Ambiguous text) := by
  constructor
  · intro h
    rw [ofText.eq_def] at h
    split at h
    · next name =>
        split at h
        · exact absurd h (other_ne rfl)
        · split at h <;> cases h
        · next hnone hmany =>
            cases h
            have hcut : name.takeWhile (· != '=') = [] := by
              by_cases hcut : name.takeWhile (· != '=') = []
              · exact hcut
              · obtain ⟨switch, hswitch⟩ := List.exists_mem_of_ne_nil _ hnone
                have hone := startingWith_eq_singleton hcut (prefix_of_mem_startingWith hswitch)
                exact absurd hone (hmany switch)
            refine ⟨rfl, ?_⟩
            cases name with
            | nil => exact .inl rfl
            | cons c name =>
                have hc : c = '=' := by simpa [List.takeWhile_cons] using hcut
                exact .inr ⟨name, by simp [hc]⟩
    · next c rest hne =>
        split at h
        · exact absurd h (other_ne rfl)
        · split at h <;> first | cases h | exact absurd h cluster_ne_ambiguous
    · cases h
  · rintro ⟨rfl, rfl | ⟨value, rfl⟩⟩
    · rfl
    · rfl

end Texts

end Argument

end PocketScheme.Command
