/-
One line in, one line out: the answer to a text without a line feed has
none either.

A line feed can be in the text of a value only where the value holds one,
in an atom or a string, and the names and strings of a value that is read
are pieces of the text it is read from. Evaluation makes no others
(`kept_unbroken`). A message is made of fixed words, of values, and of
names that stand in the form as atoms, or of characters of the text
itself if the text is no expression (`complains_of_read`), so this
carries over to failures, whatever their cause.
-/
import PocketScheme.Proofs.Evaluation.Carried
import PocketScheme.Proofs.Reading.RoundTrip
import PocketScheme.Proofs.Reading.Wording
import PocketScheme.Session

namespace PocketScheme

open Text

-- =============================================================== values

namespace Value

/-- Whether a value has no line feed, apart from its parts. -/
def Unbroken : Value → Prop
  | atom name => '\n' ∉ name.toList
  | str text => '\n' ∉ text.toList
  | _ => True

theorem kept_unbroken : Kept Unbroken where
  int _ := trivial
  bool _ := trivial
  list _ := trivial
  dotted _ := trivial
  pair _ _ _ := trivial

end Value

open Value (Unbroken every_list_iff every_dotted_iff)

theorem newline_not_mem_decimal (n : Int) : '\n' ∉ Decimal.render n :=
  Decimal.not_mem_render (by decide) (by decide) n

namespace Value

mutual

/-- The text of a value has a line feed only if the value has one. -/
theorem newline_not_mem_render : ∀ {v : Value}, v.Every Unbroken → '\n' ∉ v.render
  | .atom _, h => h
  | .int n, _ => by
      rw [render_int]
      exact newline_not_mem_decimal n
  | .str text, h => by
      have htext : '\n' ∉ text.toList := h
      simp [render, htext]
  | .bool true, _ | .bool false, _ | .list [], _ => by decide
  | .list (first :: more), ⟨_, hfirst, hmore⟩ => by
      simp [render, newline_not_mem_render hfirst, newline_not_mem_renderMore hmore]
  | .dotted first more tail, ⟨_, hfirst, hmore, htail⟩ => by
      simp [render, newline_not_mem_render hfirst, newline_not_mem_renderMore hmore,
        newline_not_mem_render htail]

theorem newline_not_mem_renderMore :
    ∀ {more : List Value}, EveryItem Unbroken more → '\n' ∉ renderMore more
  | [], _ => by simp [renderMore]
  | _ :: _, ⟨hv, hmore⟩ => by
      simp [renderMore, newline_not_mem_render hv, newline_not_mem_renderMore hmore]

end

theorem newline_not_mem_renderAll {values : List Value} (h : ∀ v ∈ values, v.Every Unbroken) :
    '\n' ∉ renderAll values := by
  cases values with
  | nil => simp [renderAll]
  | cons first more =>
      obtain ⟨hfirst, hmore⟩ := List.forall_mem_cons.1 h
      simp [renderAll, newline_not_mem_render hfirst,
        newline_not_mem_renderMore (everyItem_iff.2 hmore)]

end Value

-- ============================================================== reading

/-- What of a phrase has no line feed: its values. -/
def Phrase.Unbroken : Phrase → Prop
  | form v => v.Every Value.Unbroken
  | items first more => first.Every Value.Unbroken ∧ ∀ v ∈ more, v.Every Value.Unbroken

/-- What is derived from a text has a line feed only if the text has
one. -/
theorem Spells.unbroken {text : List Char} {phrase : Phrase} (h : Spells text phrase)
    (htext : '\n' ∉ text) : phrase.Unbroken := by
  induction h with
  | truth => trivial
  | falsity => trivial
  | number _ => trivial
  | atom =>
      show '\n' ∉ (String.ofList _).toList
      rwa [String.toList_ofList]
  | string =>
      simp only [List.mem_cons, List.mem_append, not_or] at htext
      show '\n' ∉ (String.ofList _).toList
      rw [String.toList_ofList]
      exact htext.2.1
  | quoted _ ih =>
      have hquote : '\n' ∉ "quote".toList := by decide
      have hv := ih (List.not_mem_of_not_mem_cons htext)
      exact every_list_iff.2 ⟨trivial, by simpa using ⟨hquote, hv⟩⟩
  | empty => exact every_list_iff.2 ⟨trivial, by simp⟩
  | list _ ih =>
      simp only [List.mem_cons, List.mem_append, not_or] at htext
      exact every_list_iff.2 ⟨trivial, List.forall_mem_cons.2 (ih htext.2.1)⟩
  | dotted _ _ _ _ ih ih' =>
      simp only [List.mem_cons, List.mem_append, not_or] at htext
      obtain ⟨-, ⟨hitems, -, -, -, htail⟩, -⟩ := htext
      obtain ⟨hfirst, hmore⟩ := ih hitems
      exact every_dotted_iff.2 ⟨trivial, hfirst, hmore, ih' htail⟩
  | one _ ih => exact ⟨ih htext, by simp⟩
  | snoc _ _ _ ih ih' =>
      simp only [List.mem_append, not_or] at htext
      obtain ⟨hitems, -, hform⟩ := htext
      obtain ⟨hfirst, hmore⟩ := ih hitems
      refine ⟨hfirst, fun v hv => ?_⟩
      rcases List.mem_append.1 hv with hv | hv
      · exact hmore v hv
      · rw [List.mem_singleton.1 hv]
        exact ih' hform

-- ============================================================== failures

/-- The words of a failure that are its own, apart from the values it
carries. -/
def Failure.words : Failure → List String
  | arity _ _ => []
  | mismatch expected _ => [expected]
  | unreadable detail _ => [detail]
  | badForm message _ => [message]
  | unknownProcedure message name | unboundVariable message name => [message, name]
  | generic message => [message]
  | divisionByZero operator _ => [operator]

theorem mem_of_mem_stripBack {c : Char} {text : List Char} (h : c ∈ stripBack text) :
    c ∈ text := by
  rw [stripBack, List.mem_reverse] at h
  exact List.mem_reverse.1 ((List.dropWhile_suffix _).subset h)

/-- The message of a failure has a line feed only if a value or a word of
it has one. -/
theorem Failure.newline_not_mem_render {failure : Failure}
    (hvalues : ∀ v ∈ failure.values, v.Every Unbroken)
    (hwords : ∀ word ∈ failure.words, '\n' ∉ word.toList) : '\n' ∉ failure.render := by
  cases failure with
  | arity expected found =>
      unfold Failure.render
      refine fun hmem => absurd (mem_of_mem_stripBack hmem) ?_
      simp only [List.mem_append, not_or]
      exact ⟨⟨⟨by decide, newline_not_mem_decimal expected⟩, by decide⟩,
        Value.newline_not_mem_renderAll hvalues⟩
  | mismatch expected found =>
      have hexpected : '\n' ∉ expected.toList := hwords expected (by simp [words])
      have hfound : '\n' ∉ found.render :=
        Value.newline_not_mem_render (hvalues found (by simp [values]))
      unfold Failure.render
      simp only [List.mem_append, not_or]
      exact ⟨⟨⟨by decide, hexpected⟩, by decide⟩, hfound⟩
  | unreadable detail position =>
      have hdetail : '\n' ∉ detail.toList := hwords detail (by simp [words])
      unfold Failure.render
      simp only [List.mem_append, not_or]
      exact ⟨⟨⟨⟨⟨by decide, newline_not_mem_decimal _⟩, by decide⟩, newline_not_mem_decimal _⟩,
        by decide⟩, hdetail⟩
  | badForm message form =>
      have hmessage : '\n' ∉ message.toList := hwords message (by simp [words])
      have hform : '\n' ∉ form.render :=
        Value.newline_not_mem_render (hvalues form (by simp [values]))
      unfold Failure.render
      simp only [List.mem_append, not_or]
      exact ⟨⟨hmessage, by decide⟩, hform⟩
  | unknownProcedure message name =>
      have hmessage : '\n' ∉ message.toList := hwords message (by simp [words])
      have hname : '\n' ∉ name.toList := hwords name (by simp [words])
      unfold Failure.render
      simp only [List.mem_append, not_or]
      exact ⟨⟨⟨hmessage, by decide⟩, hname⟩, by decide⟩
  | unboundVariable message name =>
      have hmessage : '\n' ∉ message.toList := hwords message (by simp [words])
      have hname : '\n' ∉ name.toList := hwords name (by simp [words])
      unfold Failure.render
      simp only [List.mem_append, not_or]
      exact ⟨⟨hmessage, by decide⟩, hname⟩
  | generic message => exact hwords message (by simp [words])
  | divisionByZero operator arguments =>
      have hoperator : '\n' ∉ operator.toList := hwords operator (by simp [words])
      unfold Failure.render
      simp only [List.mem_append, not_or]
      exact ⟨⟨⟨⟨by decide, hoperator⟩, by decide⟩, Value.newline_not_mem_renderAll hvalues⟩,
        by decide⟩

theorem newline_not_mem_expectations :
    ∀ expecting ∈ expectations, '\n' ∉ expecting.toList := by decide

/-- A text that is no expression is refused in one line if it is one. -/
theorem newline_not_mem_render_of_read {text : List Char} (htext : '\n' ∉ text)
    {failure : Failure} (h : read text = .error failure) : '\n' ∉ failure.render := by
  cases complains_of_read h with
  | @noLexeme c p hc =>
      have hne : '\n' ≠ c := by
        rintro rfl
        exact htext hc
      unfold Cursor.noLexeme
      split
      · exact Failure.newline_not_mem_render (by simp [Failure.values]) (by simp [Failure.words])
      · exact Failure.newline_not_mem_render (by simp [Failure.values])
          (by simp [Failure.words, hne])
  | @unexpected token expecting htoken hexpecting =>
      have hdescribe : '\n' ∉ token.describe := by
        have hmem : '\n' ∉ token.text := fun hmem => htext (htoken hmem)
        unfold Token.describe
        split
        · decide
        · decide
        · simp [hmem]
      have hexpected : '\n' ∉ expecting.toList :=
        newline_not_mem_expectations expecting hexpecting
      exact Failure.newline_not_mem_render (by simp [Token.unexpected, Failure.values])
        (by simp [Token.unexpected, Failure.words, hdescribe, hexpected])

/-- Of a rejected application, the message has no word that varies but
the name. -/
theorem newline_not_mem_words_of_rejection {name : String} (hname : '\n' ∉ name.toList)
    {arguments : List Value} {failure : Failure} (h : Rejection name arguments failure) :
    ∀ word ∈ failure.words, '\n' ∉ word.toList := by
  cases h with
  | unknown => simp [Failure.words, hname]
  | count => simp [Failure.words]
  | @operand _ role _ _ _ _ hblames =>
      obtain ⟨-, v, -, -, -, -, rfl⟩ := hblames
      have hnoun : '\n' ∉ role.noun.toList := by cases role <;> decide
      simp [Failure.words, hnoun]
  | zeroDivisor => simp [Failure.words, hname]

/-- The message about a form without a line feed has none either. -/
theorem newline_not_mem_render_of_evaluate {form : Value} (hform : form.Every Unbroken)
    {failure : Failure} (h : evaluate form = .error failure) : '\n' ∉ failure.render := by
  refine Failure.newline_not_mem_render
    (every_of_evaluate_error Value.kept_unbroken hform h) ?_
  obtain ⟨context, part, rfl, -, horigin⟩ := exists_origin h
  cases horigin with
  | @refused _ message hrefused =>
      have hmessage : '\n' ∉ message.toList := by
        cases hrefused with
        | noRule _ => decide
        | malformed special _ => cases special <;> decide
      simp [Failure.words, hmessage]
  | call _ _ happly =>
      have hitems := (every_list_iff.1 (Context.every_of_fill hform)).2
      exact newline_not_mem_words_of_rejection (hitems _ (.head _)) (apply_eq_error_iff.1 happly)

-- ============================================================== answers

/-- A text that is one line has an answer that is one line, whether it is
a value or a failure. -/
theorem newline_not_mem_answer {code : List Char} (h : '\n' ∉ code) :
    '\n' ∉ (Session.report code).answer := by
  rw [Session.answer_report]
  cases hread : read code with
  | error failure =>
      simp only [evaluateText, hread]
      exact newline_not_mem_render_of_read h hread
  | ok form =>
      have hform : form.Every Unbroken := (read_eq_ok_iff_spells.1 hread).unbroken h
      rw [evaluateText_of_read hread]
      cases hevaluate : evaluate form with
      | ok v =>
          exact Value.newline_not_mem_render (evaluate_every Value.kept_unbroken hform hevaluate)
      | error failure => exact newline_not_mem_render_of_evaluate hform hevaluate

end PocketScheme
