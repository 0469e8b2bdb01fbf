/-
What is done for a command line: help, a refusal, an evaluation or the
loop, as its arguments say it.

The candidates are the arguments before the separator that are no options,
what options leave over, and all that stands behind the separator. An
ambiguous option is refused before all else, then the first option counts
that asks for help or has a value, and where options ask for no more than
the log it is the candidates that decide. So much of a run is known from
how its arguments are spelled (`command_line_decided`), by either
convention; what the two differ in is only which spellings ask for what,
and what is left over.
-/
import PocketScheme.Command.Run
import PocketScheme.Proofs.Command.Argument
import PocketScheme.Proofs.Command.Invocation
import PocketScheme.Proofs.Session.Loop

namespace PocketScheme.Command

open Text

-- ========================================================== by the texts

/-- The arguments before the separator. -/
def beforeSeparator (texts : List (List Char)) : List (List Char) :=
  texts.takeWhile (· != separator)

/-- The texts that may be the expression, for what an argument has for its
place: those of the arguments before the separator, and all behind it. -/
def candidatesBy (candidate? : List Char → Option (List Char)) (texts : List (List Char)) :
    List (List Char) :=
  (beforeSeparator texts).filterMap candidate? ++ (texts.dropWhile (· != separator)).drop 1

/-- Whether an argument asks for the help text. -/
def AsksForHelp (convention : Convention) (text : List Char) : Prop :=
  ∃ all, Spelled convention text all ∧ .help ∈ all

/-- Whether an argument asks for the whole log and not for help. -/
def AsksForLog (convention : Convention) (text : List Char) : Prop :=
  ∃ all, Spelled convention text all ∧ .help ∉ all

/-- Whether a command line is refused, and so nothing evaluated, whatever
the setting and the input are. -/
def IsRefused (convention : Convention) (texts : List (List Char)) : Prop :=
  ∃ complaint, ∀ setting terminal input,
    runBy convention texts setting terminal input = ⟨2, [], refusal complaint⟩

section Texts

variable {convention : Convention} {texts : List (List Char)} {text : List Char}

theorem asksForHelp_iff :
    AsksForHelp convention text ↔ (Argument.ofText convention text).holds .help = true := by
  simp only [AsksForHelp, Argument.holds_iff, Argument.ofText_eq_switches_iff]

theorem asksForLog_iff :
    AsksForLog convention text ↔ ∃ all leftOver,
      Argument.ofText convention text = .switches all leftOver ∧ .help ∉ all := by
  simp only [AsksForLog, ← Argument.ofText_eq_switches_iff, exists_and_right]

theorem AsksForHelp.not_asksForLog (h : AsksForHelp convention text) :
    ¬AsksForLog convention text := by
  rw [asksForLog_iff]
  rintro ⟨all, leftOver, hargument, hnoHelp⟩
  rw [asksForHelp_iff, hargument] at h
  exact hnoHelp (by simpa [Argument.holds] using h)

/-- An argument leaves the matter to the candidates if it asks for no more
than the log as soon as it is an option. -/
theorem passes_ofText_iff :
    (Argument.ofText convention text).passes = true ↔
      (isOption text = true → AsksForLog convention text) := by
  rw [asksForLog_iff, ← Argument.isOption_ofText convention]
  cases Argument.ofText convention text with
  | _ => simp [Argument.passes, Argument.isOption]

/-- An argument that is nothing but a switch asks for the log and leaves
nothing over. -/
theorem isVerbosity_ofText_iff :
    (Argument.ofText convention text).isVerbosity = true ↔
      AsksForLog convention text ∧ candidate? convention text = none := by
  rw [Argument.isVerbosity_iff, passes_ofText_iff, Argument.text?_ofText]
  refine and_congr_left fun hnone => ⟨fun hlog => hlog ?_, fun hlog _ => hlog⟩
  rw [candidate?] at hnone
  split at hnone
  · assumption
  · cases hnone

theorem ne_separator_of_mem (h : text ∈ beforeSeparator texts) : text ≠ separator := by
  simpa using List.mem_takeWhile_imp h

theorem candidates_ofTexts (convention : Convention) (texts : List (List Char)) :
    (Invocation.ofTexts convention texts).candidates =
      candidatesBy (candidate? convention) texts := by
  have htext : Argument.text? ∘ Argument.ofText convention = candidate? convention :=
    funext (Argument.text?_ofText convention)
  rw [Invocation.candidates, Invocation.ofTexts, candidatesBy, List.filterMap_map, htext,
    beforeSeparator]

theorem undisturbed_ofTexts_iff :
    (Invocation.ofTexts convention texts).Undisturbed ↔
      ∀ text ∈ beforeSeparator texts, isOption text = true → AsksForLog convention text := by
  simp only [Invocation.Undisturbed, Invocation.ofTexts, List.forall_mem_map, passes_ofText_iff,
    beforeSeparator]

/-- An option is ambiguous, or it asks for something, or it gives a value
to a switch. -/
theorem option_cases (hmem : text ∈ beforeSeparator texts) (h : isOption text = true) :
    Ambiguous text ∨ AsksForHelp convention text ∨ AsksForLog convention text
      ∨ ∃ switch value, Argument.ofText convention text = .valued switch value := by
  have hoption := (Argument.isOption_ofText convention text).trans h
  cases hargument : Argument.ofText convention text with
  | switches all leftOver =>
      have hspelled := Argument.ofText_eq_switches_iff.1 ⟨leftOver, hargument⟩
      by_cases hhelp : .help ∈ all
      · exact .inr (.inl ⟨all, hspelled, hhelp⟩)
      · exact .inr (.inr (.inl ⟨all, hspelled, hhelp⟩))
  | valued switch value => exact .inr (.inr (.inr ⟨switch, value, rfl⟩))
  | ambiguous text' =>
      obtain ⟨-, hseparator | hword⟩ := Argument.ofText_eq_ambiguous_iff.1 hargument
      · exact absurd hseparator (ne_separator_of_mem hmem)
      · exact .inl hword
  | expression | unknown =>
      rw [hargument] at hoption
      cases hoption

theorem ambiguous?_ofTexts_eq_none_iff :
    (Invocation.ofTexts convention texts).ambiguous? = none ↔
      ∀ text ∈ beforeSeparator texts, ¬Ambiguous text := by
  rw [Invocation.ambiguous?, List.findSome?_eq_none_iff, Invocation.ofTexts, List.forall_mem_map]
  refine forall₂_congr fun text hmem => ?_
  have hambiguous : Ambiguous text ↔ Argument.ofText convention text = .ambiguous text := by
    rw [Argument.ofText_eq_ambiguous_iff]
    have hne := ne_separator_of_mem hmem
    simp [separator] at hne
    simp [hne]
  rw [hambiguous]
  cases hargument : Argument.ofText convention text with
  | ambiguous text' =>
      obtain ⟨rfl, -⟩ := Argument.ofText_eq_ambiguous_iff.1 hargument
      simp
  | _ => simp

-- ====================================================== what is decided

theorem isRefused_of_action {complaint : Complaint}
    (h : (Invocation.ofTexts convention texts).action = .refuse complaint) :
    IsRefused convention texts :=
  ⟨complaint, fun setting terminal input => by simp only [runBy, h]⟩

/-- An ambiguous option is refused before all else. -/
theorem isRefused_of_ambiguous (h : ∃ text ∈ beforeSeparator texts, Ambiguous text) :
    IsRefused convention texts := by
  cases hambiguous : (Invocation.ofTexts convention texts).ambiguous? with
  | none =>
      obtain ⟨text, hmem, htext⟩ := h
      exact absurd htext (ambiguous?_ofTexts_eq_none_iff.1 hambiguous text hmem)
  | some complaint => exact isRefused_of_action (by rw [Invocation.action, hambiguous])

/-- The first option that does not only ask for the log is answered with
the help text if it asks for that, and refused if not. -/
theorem run_of_first_option {before after : List (List Char)}
    (hclear : ∀ text ∈ beforeSeparator texts, ¬Ambiguous text)
    (hsplit : beforeSeparator texts = before ++ text :: after)
    (hbefore : ∀ option ∈ before, isOption option = true → AsksForLog convention option)
    (hoption : isOption text = true) (hlog : ¬AsksForLog convention text) :
    (AsksForHelp convention text → ∀ setting terminal input,
        runBy convention texts setting terminal input = ⟨0, helpText.toList, []⟩)
      ∧ (¬AsksForHelp convention text → IsRefused convention texts) := by
  have hambiguous : (Invocation.ofTexts convention texts).ambiguous? = none :=
    ambiguous?_ofTexts_eq_none_iff.2 hclear
  have hoptions : (Invocation.ofTexts convention texts).options =
      before.map (Argument.ofText convention)
        ++ Argument.ofText convention text :: after.map (Argument.ofText convention) := by
    rw [Invocation.ofTexts, ← beforeSeparator, hsplit, List.map_append, List.map_cons]
  have hpasses : ∀ argument ∈ before.map (Argument.ofText convention), argument.passes = true := by
    rw [List.forall_mem_map]
    intro option hmem
    exact passes_ofText_iff.2 (hbefore option hmem)
  obtain ⟨hhelp, hvalued⟩ := Invocation.interruption?_of_cons hoptions hpasses
  refine ⟨fun h setting terminal input => ?_, fun h => ?_⟩
  · have haction : (Invocation.ofTexts convention texts).action = .help := by
      rw [Invocation.action, hambiguous, hhelp (asksForHelp_iff.1 h)]
      rfl
    simp only [runBy, haction]
  · have hmem : text ∈ beforeSeparator texts := by
      rw [hsplit]
      simp
    rcases option_cases hmem hoption with hword | hhelps | hlogs | ⟨switch, value, hargument⟩
    · exact absurd hword (hclear text hmem)
    · exact absurd hhelps h
    · exact absurd hlogs hlog
    · have haction :
          (Invocation.ofTexts convention texts).action = .refuse (.valued switch value) := by
        rw [Invocation.action, hambiguous, hvalued switch value hargument]
        rfl
      exact isRefused_of_action haction

/-- Where all options only ask for the log, the candidates decide. -/
theorem run_of_candidates
    (h : ∀ option ∈ beforeSeparator texts, isOption option = true → AsksForLog convention option)
    (hstranded : ¬(Invocation.ofTexts convention texts).Stranded) (setting : Option String)
    (terminal : Bool) (input : List Char) :
    let level := showFrom (Invocation.ofTexts convention texts).verbose setting
    (2 ≤ (candidatesBy (candidate? convention) texts).length → IsRefused convention texts)
      ∧ (∀ text, candidatesBy (candidate? convention) texts = [text] →
          runBy convention texts setting terminal input = .ofTranscript level (Loop.reply text))
      ∧ (candidatesBy (candidate? convention) texts = [] →
          runBy convention texts setting terminal input =
            .ofTranscript level (Loop.run terminal input)) := by
  have hrequest := Invocation.action_of_undisturbed (undisturbed_ofTexts_iff.2 h)
  rw [← candidates_ofTexts]
  refine ⟨fun htwo => ?_, fun text hone => ?_, fun hnone => ?_⟩
  · obtain ⟨leftOver, hrefuse⟩ := Invocation.request_of_two_candidates htwo
    exact isRefused_of_action (hrequest.trans hrefuse)
  · have haction := hrequest.trans (Invocation.request_of_candidates_singleton
      (undisturbed_ofTexts_iff.2 h) hstranded hone)
    simp only [runBy, haction]
  · have haction := hrequest.trans (Invocation.request_of_candidates_nil hnone)
    simp only [runBy, haction]

end Texts

/-- A candidate behind the separator is answered as the loop answers it
on a line of its own. -/
theorem run_separator {convention : Convention} {text : List Char} (hne : text ≠ [])
    (hline : '\n' ∉ text) (hstrip : strip text = text) (setting : Option String)
    (terminal : Bool) (input : List Char) :
    runBy convention [separator, text] setting terminal input =
      runBy convention [] setting false (text ++ ['\n']) := by
  have hloop : Loop.run false (text ++ ['\n']) = Loop.reply text := by
    rw [Loop.run, lines_append_cons hline, lines_nil, Loop.overLines_eq, Loop.answered,
      Loop.replyToLine, hstrip]
    cases text with
    | nil => exact absurd rfl hne
    | cons c text => simp [Loop.answered]
  have hseparator : (Invocation.ofTexts convention [separator, text]).action = .evaluate text := rfl
  have hnothing : (Invocation.ofTexts convention []).action = .loop := rfl
  simp only [runBy, hseparator, hnothing, hloop]
  rfl

/-- By either convention, every command line is decided by its options and
its candidates. An ambiguous option is refused before all else. After that
the first option that does not only ask for the log decides: it is
answered with the help text if it asks for that, and refused if not. If
there is none, the command line is refused exactly if it has two
candidates or more; one is evaluated, and without one the loop runs. Of
this a stranded candidate is left out. And a candidate behind the
separator is answered as the loop answers it on a line of its own. -/
theorem command_line_decided (convention : Convention) :
    (∀ texts : List (List Char),
        ((∃ text ∈ beforeSeparator texts, Ambiguous text) → IsRefused convention texts)
          ∧ ((∀ text ∈ beforeSeparator texts, ¬Ambiguous text) →
              ∀ before text after, beforeSeparator texts = before ++ text :: after →
                (∀ option ∈ before, isOption option = true → AsksForLog convention option) →
                isOption text = true → ¬AsksForLog convention text →
                  (AsksForHelp convention text → ∀ setting terminal input,
                      runBy convention texts setting terminal input =
                        ⟨0, helpText.toList, []⟩)
                    ∧ (¬AsksForHelp convention text → IsRefused convention texts))
          ∧ ((∀ option ∈ beforeSeparator texts,
                isOption option = true → AsksForLog convention option) →
              ¬(Invocation.ofTexts convention texts).Stranded →
                let found := candidatesBy (candidate? convention) texts
                (2 ≤ found.length → IsRefused convention texts)
                  ∧ ∀ setting terminal input,
                      let outcome := runBy convention texts setting terminal input
                      let level :=
                        showFrom (Invocation.ofTexts convention texts).verbose setting
                      (outcome.exitCode = 2 ↔ 2 ≤ found.length)
                        ∧ (∀ text, found = [text] → outcome =
                            ⟨0, (Session.report text).answer ++ ['\n'],
                              Log.shown level (Session.report text).log⟩)
                        ∧ (found = [] → outcome =
                            ⟨0, (Loop.run terminal input).output,
                              Log.shown level (Loop.run terminal input).log⟩)))
      ∧ ∀ text setting terminal input, text ≠ [] → '\n' ∉ text → strip text = text →
          runBy convention [separator, text] setting terminal input =
            runBy convention [] setting false (text ++ ['\n']) := by
  refine ⟨fun texts => ⟨isRefused_of_ambiguous, fun hclear before text after =>
    run_of_first_option hclear, fun hlog hstranded => ?_⟩, fun text setting terminal input hne
    hline hstrip => run_separator hne hline hstrip setting terminal input⟩
  have hdecided (setting : Option String) (terminal : Bool) (input : List Char) :=
    run_of_candidates hlog hstranded setting terminal input
  refine ⟨(hdecided none false []).1, fun setting terminal input => ?_⟩
  obtain ⟨htwo, hone, hnone⟩ := hdecided setting terminal input
  refine ⟨?_, hone, hnone⟩
  match hfound : candidatesBy (candidate? convention) texts with
  | [] => simp [hnone hfound, Outcome.ofTranscript]
  | [text] => simp [hone text hfound, Outcome.ofTranscript]
  | first :: second :: more =>
      obtain ⟨complaint, hrun⟩ := htwo (by simp [hfound])
      simp [hrun]

/-- Letters that stand together and the start of a word, around the
candidate; and a candidate that is left over behind a letter. -/
theorem command_line_decided_letters :
    (runBy .whole ["-vv".toList, "\"b c\"".toList, "--ve".toList] none true []).output =
        "\"b c\"\n".toList
      ∧ (runBy .apart ["-vx".toList] none true []).output =
        "Unrecognized special form: -x\n".toList
      ∧ runBy .whole [separator, "-v".toList] none true [] =
        runBy .whole [] none false "-v\n".toList := by
  have hdecided (convention : Convention) (texts : List (List Char)) (text : List Char)
      (hpasses : ∀ option ∈ beforeSeparator texts,
        (Argument.ofText convention option).passes = true)
      (htail : (Invocation.ofTexts convention texts).tail.length ≠ 1)
      (hfound : candidatesBy (candidate? convention) texts = [text]) :
      (runBy convention texts none true []).output = (Session.report text).answer ++ ['\n'] := by
    obtain ⟨-, hone, -⟩ := (((command_line_decided convention).1 texts).2.2
      (fun option hmem => passes_ofText_iff.1 (hpasses option hmem))
      (Invocation.not_stranded_of_length_ne htail)).2 none true []
    rw [hone text hfound]
  refine ⟨?_, ?_, (command_line_decided .whole).2 "-v".toList none true [] (by decide)
    (by decide) (by decide)⟩
  · have hanswer : (Session.report "\"b c\"".toList).answer = "\"b c\"".toList := by
      with_unfolding_all rfl
    rw [hdecided .whole _ "\"b c\"".toList (by decide) (by decide) (by decide), hanswer]
    rfl
  · have hfailure : evaluateText "-x".toList =
        .error (.badForm "Unrecognized special form" (.atom "-x")) := by
      with_unfolding_all rfl
    rw [hdecided .apart _ "-x".toList (by decide) (by decide) (by decide),
      Session.answer_report, hfailure]
    rfl

/-- The four spellings of the switches in full are not all, by either
convention: of what else is written, not everything is a candidate. -/
theorem command_line_decided_spellings :
    ¬∃ convention, ∀ (texts : List (List Char)) (setting : Option String) (terminal : Bool)
        (input text : List Char),
      (∀ option ∈ beforeSeparator texts, option ∉ ["-h".toList, "--help".toList]) →
      candidatesBy (Option.guard fun option =>
          ["-h".toList, "--help".toList, "-v".toList, "--verbose".toList].all (· != option))
        texts = [text] →
      (runBy convention texts setting terminal input).output =
        (Session.report text).answer ++ ['\n'] := by
  rintro ⟨convention, hall⟩
  have houtput := hall ["-vv".toList] none false [] "-vv".toList (by decide) (by decide)
  have hloop : (Invocation.ofTexts convention ["-vv".toList]).action = .loop := by
    cases convention <;> rfl
  have hnothing : (runBy convention ["-vv".toList] none false []).output = [] := by
    simp only [runBy, hloop, Loop.run, lines_nil]
    rfl
  rw [hnothing] at houtput
  simp at houtput

end PocketScheme.Command
