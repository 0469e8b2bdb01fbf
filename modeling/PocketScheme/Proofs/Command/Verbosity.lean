/-
What the verbosity switches change: how much of the log shows, and
nothing else.

Command lines that are alike but for arguments that only ask for the log
have the same candidates and the same interruptions, so they come to the
same action, or both to a refusal (`Alike.action_eq_or_refuse`). There is
one place where such an argument counts, by either convention: between the
only candidate and a separator at the end it makes the candidate a
stranded one, and the command line is refused.

What a run logs does not depend on the level either, so that what shows
at any level is that part of the whole log.
-/
import PocketScheme.Proofs.Command.Candidates

namespace PocketScheme.Command

open Text

-- ========================================================== invocations

namespace Invocation

variable {invocation invocation' : Invocation}

/-- Whether two command lines are the same but for arguments that only ask
for the log. -/
structure Alike (invocation invocation' : Invocation) : Prop where
  options : invocation.options.filter (fun argument => !argument.isVerbosity) =
    invocation'.options.filter fun argument => !argument.isVerbosity
  tail : invocation.tail = invocation'.tail

namespace Alike

variable (h : invocation.Alike invocation')

include h

theorem filterMap_options {α : Type} {f : Argument → Option α}
    (hf : ∀ argument, argument.isVerbosity = true → f argument = none) :
    invocation.options.filterMap f = invocation'.options.filterMap f := by
  have hfilter (options : List Argument) :
      options.filterMap f =
        (options.filter fun argument => !argument.isVerbosity).filterMap f := by
    rw [List.filterMap_filter]
    congr 1
    funext argument
    cases hverbosity : argument.isVerbosity with
    | true => simp [hf argument hverbosity]
    | false => rfl
  rw [hfilter, h.options, ← hfilter]

theorem ambiguous?_eq : invocation.ambiguous? = invocation'.ambiguous? := by
  rw [ambiguous?, ambiguous?, ← List.head?_filterMap, ← List.head?_filterMap,
    h.filterMap_options]
  intro argument hverbosity
  cases argument with
  | ambiguous => cases hverbosity
  | _ => rfl

theorem interruption?_eq : invocation.interruption? = invocation'.interruption? := by
  rw [interruption?, interruption?, ← List.head?_filterMap, ← List.head?_filterMap,
    h.filterMap_options]
  intro argument hverbosity
  cases argument with
  | switches all leftOver =>
      obtain ⟨hpasses, -⟩ := Argument.isVerbosity_iff.1 hverbosity
      simpa [Argument.passes, Argument.holds] using hpasses
  | _ => cases hverbosity

theorem symm : invocation'.Alike invocation where
  options := h.options.symm
  tail := h.tail.symm

theorem undisturbed_iff : invocation.Undisturbed ↔ invocation'.Undisturbed := by
  rw [Invocation.undisturbed_iff, Invocation.undisturbed_iff, h.ambiguous?_eq,
    h.interruption?_eq]

theorem candidates_eq : invocation.candidates = invocation'.candidates := by
  rw [candidates, candidates, h.tail,
    h.filterMap_options fun _ hverbosity => (Argument.isVerbosity_iff.1 hverbosity).2]

end Alike

/-- Next to a stranded candidate, one that is not stranded is evaluated. -/
theorem Alike.exists_evaluate (h : invocation.Alike invocation') (hstranded : invocation.Stranded)
    (hstranded' : ¬invocation'.Stranded) : ∃ text, invocation'.action = .evaluate text := by
  obtain ⟨⟨text, hone⟩, -⟩ := candidates_of_stranded hstranded
  have hundisturbed' := h.undisturbed_iff.1 hstranded.undisturbed
  rw [action_of_undisturbed hundisturbed']
  exact ⟨text, request_of_candidates_singleton hundisturbed' hstranded'
    (h.candidates_eq.symm.trans hone)⟩

/-- Command lines that are alike come to the same, or both to a refusal,
where no candidate is stranded. -/
theorem Alike.action_eq_or_refuse (h : invocation.Alike invocation')
    (hstranded : ¬invocation.Stranded) (hstranded' : ¬invocation'.Stranded) :
    invocation.action = invocation'.action
      ∨ ∃ complaint complaint', invocation.action = .refuse complaint
        ∧ invocation'.action = .refuse complaint' := by
  by_cases hundisturbed : invocation.Undisturbed
  · have hundisturbed' := h.undisturbed_iff.1 hundisturbed
    rw [action_of_undisturbed hundisturbed, action_of_undisturbed hundisturbed']
    match hfound : invocation.candidates with
    | [] =>
        have hfound' := h.candidates_eq.symm.trans hfound
        rw [request_of_candidates_nil hfound, request_of_candidates_nil hfound']
        exact .inl rfl
    | [text] =>
        have hfound' := h.candidates_eq.symm.trans hfound
        rw [request_of_candidates_singleton hundisturbed hstranded hfound,
          request_of_candidates_singleton hundisturbed' hstranded' hfound']
        exact .inl rfl
    | first :: second :: more =>
        have htwo : 2 ≤ invocation.candidates.length := by simp [hfound]
        obtain ⟨texts, hrefuse⟩ := request_of_two_candidates htwo
        obtain ⟨texts', hrefuse'⟩ := request_of_two_candidates (h.candidates_eq ▸ htwo)
        exact .inr ⟨_, _, hrefuse, hrefuse'⟩
  · left
    rw [action, action, ← h.ambiguous?_eq, ← h.interruption?_eq]
    cases hambiguous : invocation.ambiguous? with
    | some complaint => rfl
    | none =>
        cases hinterruption : invocation.interruption? with
        | some action => rfl
        | none =>
            exact absurd (Invocation.undisturbed_iff.2 ⟨hambiguous, hinterruption⟩) hundisturbed

end Invocation

-- ================================================================= runs

/-- What a run answers, by its action: the exit code and the output. -/
def Action.answer (terminal : Bool) (input : List Char) : Action → Nat × List Char
  | help => (0, helpText.toList)
  | refuse _ => (2, [])
  | evaluate text => (0, (Loop.reply text).output)
  | loop => (0, (Loop.run terminal input).output)

/-- What a run logs, by its action. -/
def Action.log (terminal : Bool) (input : List Char) : Action → List Log.Record
  | help | refuse _ => []
  | evaluate text => (Loop.reply text).log
  | loop => (Loop.run terminal input).log

section Runs

variable {convention : Convention} {texts texts' : List (List Char)} {setting : Option String}
  {terminal : Bool} {input : List Char}

theorem answer_run (convention : Convention) (texts : List (List Char))
    (setting : Option String) (terminal : Bool) (input : List Char) :
    ((runBy convention texts setting terminal input).exitCode,
        (runBy convention texts setting terminal input).output) =
      (Invocation.ofTexts convention texts).action.answer terminal input := by
  simp only [runBy]
  cases (Invocation.ofTexts convention texts).action with
  | _ => simp only [Action.answer, Outcome.ofTranscript]

theorem exitCode_of_refuse {complaint : Complaint}
    (h : (Invocation.ofTexts convention texts).action = .refuse complaint) :
    (runBy convention texts setting terminal input).exitCode ≠ 0 := by
  simp [runBy, h]

/-- Whether two command lines are the same but for the arguments before
the separator that ask for the log and are nothing else. -/
structure AlikeButVerbosity (convention : Convention) (texts texts' : List (List Char)) :
    Prop where
  before :
    (beforeSeparator texts).filter (fun text =>
        !(Argument.ofText convention text).isVerbosity) =
      (beforeSeparator texts').filter fun text =>
        !(Argument.ofText convention text).isVerbosity
  behind : texts.dropWhile (· != separator) = texts'.dropWhile (· != separator)

theorem AlikeButVerbosity.ofTexts (h : AlikeButVerbosity convention texts texts') :
    (Invocation.ofTexts convention texts).Alike (Invocation.ofTexts convention texts') where
  options := by
    rw [Invocation.ofTexts, Invocation.ofTexts, List.filter_map, List.filter_map]
    exact congrArg (List.map (Argument.ofText convention)) h.before
  tail := h.behind

theorem atLeast_debug (log : List Log.Record) : Log.atLeast .debug log = log := by
  rw [Log.atLeast, List.filter_eq_self]
  intro record _
  cases record.level <;> decide

/-- A run that is not refused and gives no help shows, of what it logs,
the records at the level and above. -/
theorem errors_run (hexit : (runBy convention texts setting terminal input).exitCode = 0)
    (hhelp : (Invocation.ofTexts convention texts).action ≠ .help) :
    (runBy convention texts setting terminal input).errors =
      Log.shown (showFrom (Invocation.ofTexts convention texts).verbose setting)
        ((Invocation.ofTexts convention texts).action.log terminal input) := by
  simp only [runBy] at hexit ⊢
  cases haction : (Invocation.ofTexts convention texts).action with
  | help => exact absurd haction hhelp
  | refuse complaint =>
      rw [haction] at hexit
      cases hexit
  | evaluate text => simp only [Action.log, Outcome.ofTranscript]
  | loop => simp only [Action.log, Outcome.ofTranscript]

theorem exists_asksForHelp (h : (Invocation.ofTexts convention texts).action = .help) :
    ∃ option ∈ beforeSeparator texts, AsksForHelp convention option := by
  have hrequest : (Invocation.ofTexts convention texts).request ≠ .help := by
    unfold Invocation.request
    split <;> simp
  have hinterruption : (Invocation.ofTexts convention texts).interruption? = some .help := by
    rw [Invocation.action] at h
    split at h
    · cases h
    · cases hcase : (Invocation.ofTexts convention texts).interruption? with
      | none =>
          rw [hcase] at h
          exact absurd h hrequest
      | some action =>
          rw [hcase] at h
          exact congrArg some h
  obtain ⟨argument, hmem, hargument⟩ := List.exists_of_findSome?_eq_some hinterruption
  obtain ⟨option, hoption, rfl⟩ := List.mem_map.1 hmem
  refine ⟨option, hoption, asksForHelp_iff.2 ?_⟩
  split at hargument
  · cases hargument
  · simpa using hargument

/-- Where no option asks for help, the whole log is asked for by an option
that does not ask for help. -/
theorem verbose_ofTexts_iff
    (hhelp : ∀ option ∈ beforeSeparator texts, ¬AsksForHelp convention option) :
    (Invocation.ofTexts convention texts).verbose = true ↔
      ∃ option ∈ beforeSeparator texts, AsksForLog convention option := by
  rw [Invocation.verbose, Invocation.ofTexts, List.any_map, List.any_eq_true]
  refine exists_congr fun option => and_congr_right fun hmem => ?_
  simp only [Function.comp_apply, Argument.holds_iff, Argument.ofText_eq_switches_iff]
  refine exists_congr fun all => and_congr_right fun hspelled => ⟨fun _ hmemHelp => ?_,
    fun hnoHelp => ?_⟩
  · exact hhelp option hmem ⟨all, hspelled, hmemHelp⟩
  · obtain ⟨switch, hswitch⟩ := hspelled.exists_mem
    cases switch with
    | help => exact absurd hswitch hnoHelp
    | verbose => exact hswitch

theorem AlikeButVerbosity.not_asksForHelp (h : AlikeButVerbosity convention texts texts')
    (hhelp : ∀ option ∈ beforeSeparator texts, ¬AsksForHelp convention option) :
    ∀ option ∈ beforeSeparator texts', ¬AsksForHelp convention option := by
  intro option hmem hasks
  have hkept : option ∈ (beforeSeparator texts').filter fun text =>
      !(Argument.ofText convention text).isVerbosity := by
    refine List.mem_filter.2 ⟨hmem, ?_⟩
    rw [Bool.not_eq_true', ← Bool.not_eq_true, isVerbosity_ofText_iff]
    exact fun h => hasks.not_asksForLog h.1
  rw [← h.before] at hkept
  exact hhelp option (List.mem_filter.1 hkept).1 hasks

/-- Whether a run writes, besides its output, the records of a log that
show: all of them if an option asks for that, and otherwise those at the
level of the setting and above. -/
def Shows (convention : Convention) (texts : List (List Char)) (setting : Option String)
    (log : List Log.Record) (errors : List Char) : Prop :=
  ((∃ option ∈ beforeSeparator texts, AsksForLog convention option) →
      errors = log.flatMap Log.Record.line)
    ∧ ((∀ option ∈ beforeSeparator texts, ¬AsksForLog convention option) →
      errors = (Log.atLeast (.ofSetting setting) log).flatMap Log.Record.line)

theorem shows_run (hhelp : ∀ option ∈ beforeSeparator texts, ¬AsksForHelp convention option)
    (hexit : (runBy convention texts setting terminal input).exitCode = 0) :
    Shows convention texts setting
      ((Invocation.ofTexts convention texts).action.log terminal input)
      (runBy convention texts setting terminal input).errors := by
  have hverbose := verbose_ofTexts_iff hhelp
  have hne : (Invocation.ofTexts convention texts).action ≠ .help := by
    intro haction
    obtain ⟨option, hmem, hasks⟩ := exists_asksForHelp haction
    exact hhelp option hmem hasks
  rw [Shows, errors_run hexit hne]
  refine ⟨fun hasks => ?_, fun hnone => ?_⟩
  · rw [hverbose.2 hasks, showFrom, if_pos rfl, Log.shown, atLeast_debug]
  · have hquiet : ¬(Invocation.ofTexts convention texts).verbose = true := by
      rw [hverbose]
      rintro ⟨option, hmem, hasks⟩
      exact hnone option hmem hasks
    rw [showFrom, if_neg hquiet, Log.shown]

/-- With the setting for debugging, a run shows all that it logs. -/
theorem errors_run_debug
    (hhelp : ∀ option ∈ beforeSeparator texts, ¬AsksForHelp convention option)
    (hexit : (runBy convention texts setting terminal input).exitCode = 0) :
    (runBy convention texts (some "DEBUG") terminal input).errors =
      ((Invocation.ofTexts convention texts).action.log terminal input).flatMap
        Log.Record.line := by
  have hanswer := (answer_run convention texts (some "DEBUG") terminal input).trans
    (answer_run convention texts setting terminal input).symm
  have hdebug : Log.Level.ofSetting (some "DEBUG") = .debug := by decide
  obtain ⟨hloud, hquiet⟩ := shows_run hhelp ((congrArg Prod.fst hanswer).trans hexit)
  by_cases hasks : ∃ option ∈ beforeSeparator texts, AsksForLog convention option
  · exact hloud hasks
  · rw [hdebug, atLeast_debug] at hquiet
    exact hquiet fun option hmem h => hasks ⟨option, hmem, h⟩

end Runs

/-- Neither the setting nor arguments that only ask for the log change
what a command line is answered, except by making its candidate a
stranded one. And of runs that evaluate something, all have one log, of
which each shows the part that is asked for. -/
theorem verbosity_changes_no_answer {convention : Convention} {texts texts' : List (List Char)}
    (h : AlikeButVerbosity convention texts texts') (setting setting' : Option String)
    (terminal : Bool) (input : List Char) :
    let outcome := runBy convention texts setting terminal input
    let outcome' := runBy convention texts' setting' terminal input
    (outcome.exitCode = outcome'.exitCode ∧ outcome.output = outcome'.output ↔
        ((Invocation.ofTexts convention texts).Stranded ↔
          (Invocation.ofTexts convention texts').Stranded))
      ∧ ((∀ option ∈ beforeSeparator texts, ¬AsksForHelp convention option) →
          outcome.exitCode = 0 → outcome'.exitCode = 0 →
          ∃ log, Shows convention texts setting log outcome.errors
            ∧ Shows convention texts' setting' log outcome'.errors
            ∧ (runBy convention texts (some "DEBUG") terminal input).errors =
              log.flatMap Log.Record.line) := by
  intro outcome outcome'
  have hpair : (outcome.exitCode = outcome'.exitCode ∧ outcome.output = outcome'.output) ↔
      (Invocation.ofTexts convention texts).action.answer terminal input =
        (Invocation.ofTexts convention texts').action.answer terminal input := by
    rw [← answer_run convention texts setting, ← answer_run convention texts' setting',
      Prod.mk.injEq]
  rw [hpair]
  by_cases hstranded : (Invocation.ofTexts convention texts).Stranded
  · obtain ⟨-, leftOver, hrefuse⟩ := Invocation.candidates_of_stranded hstranded
    refine ⟨?_, fun _ hexit => absurd hexit (exitCode_of_refuse hrefuse)⟩
    by_cases hstranded' : (Invocation.ofTexts convention texts').Stranded
    · obtain ⟨-, leftOver', hrefuse'⟩ := Invocation.candidates_of_stranded hstranded'
      refine iff_of_true ?_ (iff_of_true hstranded hstranded')
      rw [hrefuse, hrefuse']
      rfl
    · obtain ⟨text, hevaluate'⟩ := h.ofTexts.exists_evaluate hstranded hstranded'
      refine iff_of_false ?_ fun hiff => hstranded' (hiff.1 hstranded)
      rw [hrefuse, hevaluate']
      simp [Action.answer]
  · by_cases hstranded' : (Invocation.ofTexts convention texts').Stranded
    · obtain ⟨-, leftOver', hrefuse'⟩ := Invocation.candidates_of_stranded hstranded'
      obtain ⟨text, hevaluate⟩ := h.ofTexts.symm.exists_evaluate hstranded' hstranded
      refine ⟨iff_of_false ?_ fun hiff => hstranded (hiff.2 hstranded'), fun _ _ hexit' =>
        absurd hexit' (exitCode_of_refuse hrefuse')⟩
      rw [hevaluate, hrefuse']
      simp [Action.answer]
    · have hiff := iff_of_false hstranded hstranded'
      rcases h.ofTexts.action_eq_or_refuse hstranded hstranded' with
        hsame | ⟨complaint, complaint', hrefuse, hrefuse'⟩
      · refine ⟨iff_of_true (by rw [hsame]) hiff, fun hhelp hexit hexit' =>
          ⟨_, shows_run hhelp hexit, ?_, errors_run_debug hhelp hexit⟩⟩
        rw [hsame]
        exact shows_run (h.not_asksForHelp hhelp) hexit'
      · refine ⟨iff_of_true ?_ hiff, fun _ hexit => absurd hexit (exitCode_of_refuse hrefuse)⟩
        rw [hrefuse, hrefuse']
        rfl

/-- A quoted name, with the switch before it and behind it. -/
theorem verbosity_changes_no_answer_name :
    AlikeButVerbosity .apart ["-v".toList, "'b".toList]
        ["'b".toList, "--verbose".toList, "-v".toList]
      ∧ (runBy .apart ["-v".toList, "'b".toList] none false []).output =
        (runBy .apart ["'b".toList, "--verbose".toList, "-v".toList] (some "error")
          false []).output := by
  have halike : AlikeButVerbosity .apart ["-v".toList, "'b".toList]
      ["'b".toList, "--verbose".toList, "-v".toList] := ⟨by decide, by decide⟩
  have hunstranded := iff_of_false
    (Invocation.not_stranded_of_length_ne
      (show (Invocation.ofTexts .apart ["-v".toList, "'b".toList]).tail.length ≠ 1 by decide))
    (Invocation.not_stranded_of_length_ne
      (show (Invocation.ofTexts .apart
        ["'b".toList, "--verbose".toList, "-v".toList]).tail.length ≠ 1 by decide))
  obtain ⟨hanswer, -⟩ := verbosity_changes_no_answer halike none (some "error") false []
  exact ⟨halike, (hanswer.2 hunstranded).2⟩

/-- A candidate that stands before a separator is evaluated, unless the
switch stands between them; so it is by either convention. -/
theorem verbosity_changes_no_answer_separator :
    ¬∃ convention, ∀ (texts texts' : List (List Char)) (setting setting' : Option String)
        (terminal : Bool) (input : List Char), AlikeButVerbosity convention texts texts' →
      (runBy convention texts setting terminal input).exitCode =
          (runBy convention texts' setting' terminal input).exitCode
        ∧ (runBy convention texts setting terminal input).output =
          (runBy convention texts' setting' terminal input).output := by
  rintro ⟨convention, hall⟩
  have halike : AlikeButVerbosity convention ["(+ 1 2)".toList, separator]
      ["(+ 1 2)".toList, "-v".toList, separator] := by
    cases convention with
    | _ => exact ⟨by decide, by decide⟩
  obtain ⟨hexit, -⟩ := hall _ _ none none false [] halike
  have hevaluated :
      (runBy convention ["(+ 1 2)".toList, separator] none false []).exitCode = 0 := by
    cases convention <;> rfl
  have hrefused :
      (runBy convention ["(+ 1 2)".toList, "-v".toList, separator] none false []).exitCode = 2 := by
    cases convention <;> rfl
  rw [hevaluated, hrefused] at hexit
  cases hexit

end PocketScheme.Command
