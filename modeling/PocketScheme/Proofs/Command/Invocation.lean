/-
The command line as a whole: what it comes to, by its options and its
candidates.

The expression comes from four places: the first argument in the place of
one, an argument that is left over because it looks like a switch that
there is not, what a switch leaves over, and the arguments behind the
separator. Put together again these are the candidates. If no option ends
the matter before (`Undisturbed`), their number decides: without one the
loop runs, one is evaluated, and of two none is.

With one exception: an option between the only candidate and a separator
that ends the command line keeps the separator from going with the
candidate, so that it is left over itself (`Stranded`).
-/
import Mathlib.Data.List.TakeWhile
import PocketScheme.Command.Invocation

namespace PocketScheme.Command

-- ============================================================ arguments

namespace Argument

/-- Whether an argument leaves the matter to the candidates: it is no
option, or it asks for no more than the whole log. -/
def passes : Argument → Bool
  | switches all _ => !all.contains .help
  | valued _ _ | ambiguous _ => false
  | expression _ | unknown _ => true

/-- Whether an argument asks for the whole log, and is nothing else. -/
def isVerbosity (argument : Argument) : Bool := argument.passes && argument.text?.isNone

variable {argument : Argument}

theorem isVerbosity_iff :
    argument.isVerbosity = true ↔ argument.passes = true ∧ argument.text? = none := by
  simp [isVerbosity]

theorem holds_iff {switch : Switch} :
    argument.holds switch = true ↔
      ∃ all, (∃ leftOver, argument = switches all leftOver) ∧ switch ∈ all := by
  cases argument with
  | _ => simp [holds]

theorem isExpression_of_text?_eq_none (h : argument.text? = none) :
    argument.isExpression = false := by
  cases argument with
  | expression text => cases h
  | _ => rfl

end Argument

namespace Invocation

variable {invocation : Invocation}

/-- The texts that may be the expression. -/
def candidates (invocation : Invocation) : List (List Char) :=
  invocation.options.filterMap Argument.text? ++ invocation.tail.drop 1

/-- Whether the only candidate, in the place of an expression, stands
before options that stand before a separator with nothing behind it. -/
def Stranded (invocation : Invocation) : Prop :=
  ∃ before text after, invocation.options = before ++ .expression text :: after
    ∧ after ≠ [] ∧ (∀ argument ∈ before ++ after, argument.isVerbosity = true)
    ∧ invocation.tail.length = 1

/-- Whether no option ends the matter before the candidates count. -/
def Undisturbed (invocation : Invocation) : Prop :=
  ∀ argument ∈ invocation.options, argument.passes = true

/-- There is no argument in the place of an expression before the
separator, or there is a first one. -/
theorem options_cases (invocation : Invocation) :
    (∀ argument ∈ invocation.options, argument.isExpression = false)
      ∨ ∃ before text after, invocation.options = before ++ .expression text :: after
        ∧ ∀ argument ∈ before, argument.isExpression = false := by
  induction invocation.options with
  | nil => exact .inl (by simp)
  | cons argument options ih =>
      cases hargument : argument.isExpression with
      | true =>
          cases argument with
          | expression text => exact .inr ⟨[], text, options, rfl, by simp⟩
          | _ => cases hargument
      | false =>
          rcases ih with hnone | ⟨before, text, after, rfl, hbefore⟩
          · exact .inl (List.forall_mem_cons.2 ⟨hargument, hnone⟩)
          · exact .inr ⟨argument :: before, text, after, rfl,
              List.forall_mem_cons.2 ⟨hargument, hbefore⟩⟩

/-- Without an argument in the place of an expression before the
separator, the first one behind it is the expression. -/
theorem expression_of_none (h : ∀ argument ∈ invocation.options, argument.isExpression = false) :
    invocation.expression = ((invocation.tail.drop 1).head?,
      invocation.options.filterMap Argument.text? ++ (invocation.tail.drop 1).tail) := by
  have hall : ∀ argument ∈ invocation.options, (!argument.isExpression) = true := fun a ha => by
    rw [h a ha]
    rfl
  rw [expression, List.takeWhile_eq_self_iff.2 hall, List.dropWhile_eq_nil_iff.2 hall,
    List.head?_drop, List.tail_drop]

/-- The first argument in the place of an expression is the expression;
the separator is left over if it does not follow at once. -/
theorem expression_of_cons {before after : List Argument} {text : List Char}
    (hoptions : invocation.options = before ++ .expression text :: after)
    (hbefore : ∀ argument ∈ before, argument.isExpression = false) :
    invocation.expression = (some text,
      before.filterMap Argument.text? ++ after.filterMap Argument.text?
        ++ if after = [] then invocation.tail.drop 1 else invocation.tail) := by
  have hall : ∀ argument ∈ before, (!argument.isExpression) = true := fun a ha => by
    rw [hbefore a ha]
    rfl
  have htake : invocation.options.takeWhile (fun argument => !argument.isExpression) = before := by
    rw [hoptions, List.takeWhile_append_of_pos hall]
    simp [Argument.isExpression]
  have hdrop : invocation.options.dropWhile (fun argument => !argument.isExpression) =
      .expression text :: after := by
    rw [hoptions, List.dropWhile_append_of_pos hall]
    rfl
  rw [expression, htake, hdrop]
  cases after with
  | nil => simp [Argument.text?]
  | cons argument after => simp [Argument.text?]

/-- What is left over beside an expression is refused. -/
theorem request_of_leftOver {text : List Char} {texts : List (List Char)}
    (h : invocation.expression = (some text, texts)) (hne : texts ≠ []) :
    invocation.request = .refuse (.leftOver texts) := by
  obtain ⟨first, more, rfl⟩ := List.exists_cons_of_ne_nil hne
  rw [request, h]

-- ========================================================= interruptions

theorem undisturbed_iff :
    invocation.Undisturbed ↔ invocation.ambiguous? = none ∧ invocation.interruption? = none := by
  rw [ambiguous?, interruption?, List.findSome?_eq_none_iff, List.findSome?_eq_none_iff,
    ← forall₂_and]
  refine forall₂_congr fun argument _ => ?_
  cases argument with
  | _ => simp [Argument.passes, Argument.holds]

/-- Without an interruption it is the candidates that count. -/
theorem action_of_undisturbed (h : invocation.Undisturbed) :
    invocation.action = invocation.request := by
  obtain ⟨hambiguous, hinterruption⟩ := undisturbed_iff.1 h
  rw [action, hambiguous, hinterruption]
  rfl

/-- The first option that does not only ask for the log decides: it asks
for help, or it is refused for its value. -/
theorem interruption?_of_cons {before after : List Argument} {argument : Argument}
    (hoptions : invocation.options = before ++ argument :: after)
    (hbefore : ∀ a ∈ before, a.passes = true) :
    (argument.holds .help = true → invocation.interruption? = some .help)
      ∧ ∀ switch value, argument = .valued switch value →
          invocation.interruption? = some (.refuse (.valued switch value)) := by
  have hundisturbed : (⟨before, []⟩ : Invocation).Undisturbed := hbefore
  have hnone := (undisturbed_iff.1 hundisturbed).2
  rw [interruption?] at hnone ⊢
  rw [hoptions, List.findSome?_append, hnone, List.findSome?_cons, Option.none_or]
  refine ⟨fun hhelp => ?_, ?_⟩
  · cases argument with
    | switches all leftOver => simp [hhelp]
    | _ => cases hhelp
  · rintro switch value rfl
    rfl

-- ===================================================== by the candidates

theorem candidates_of_cons {before after : List Argument} {text : List Char}
    (hoptions : invocation.options = before ++ .expression text :: after) :
    invocation.candidates =
      before.filterMap Argument.text?
        ++ text :: (after.filterMap Argument.text? ++ invocation.tail.drop 1) := by
  simp [candidates, hoptions, Argument.text?]

theorem request_of_candidates_nil (h : invocation.candidates = []) :
    invocation.request = .loop := by
  obtain ⟨hoptions, htail⟩ := List.append_eq_nil_iff.1 h
  have hnone : ∀ argument ∈ invocation.options, argument.isExpression = false := fun a ha =>
    Argument.isExpression_of_text?_eq_none (List.filterMap_eq_nil_iff.1 hoptions a ha)
  rw [request, expression_of_none hnone, hoptions, htail]
  rfl

/-- A single candidate whose separator is left over is stranded. -/
theorem stranded_of_cons {before after : List Argument} {text : List Char}
    (hundisturbed : invocation.Undisturbed)
    (hoptions : invocation.options = before ++ .expression text :: after) (hafter : after ≠ [])
    (hfront : before.filterMap Argument.text? = []) (hback : after.filterMap Argument.text? = [])
    (htail : invocation.tail.length = 1) : invocation.Stranded := by
  refine ⟨before, text, after, hoptions, hafter, fun argument hmem => ?_, htail⟩
  rw [Argument.isVerbosity_iff]
  rcases List.mem_append.1 hmem with hmem | hmem
  · exact ⟨hundisturbed argument (by simp [hoptions, hmem]),
      List.filterMap_eq_nil_iff.1 hfront argument hmem⟩
  · exact ⟨hundisturbed argument (by simp [hoptions, hmem]),
      List.filterMap_eq_nil_iff.1 hback argument hmem⟩

/-- The only candidate is evaluated, unless it is stranded. -/
theorem request_of_candidates_singleton {text : List Char} (hundisturbed : invocation.Undisturbed)
    (hstranded : ¬invocation.Stranded) (h : invocation.candidates = [text]) :
    invocation.request = .evaluate text := by
  rcases invocation.options_cases with hnone | ⟨before, first, after, hoptions, hbefore⟩
  · rw [request, expression_of_none hnone]
    rcases List.append_eq_singleton_iff.1 h with ⟨htexts, htail⟩ | ⟨htexts, htail⟩
    · rw [htexts, htail]
      rfl
    · rw [htexts, htail]
      rfl
  · rw [candidates_of_cons hoptions] at h
    rcases List.append_eq_singleton_iff.1 h with ⟨hfront, hrest⟩ | ⟨-, hrest⟩
    · obtain ⟨rfl, hbehind⟩ := List.cons.inj hrest
      obtain ⟨hback, htail⟩ := List.append_eq_nil_iff.1 hbehind
      have hleftOver : (if after = [] then invocation.tail.drop 1 else invocation.tail) = [] := by
        split
        · exact htail
        · next hafter =>
            have hlength := List.drop_eq_nil_iff.1 htail
            rcases Nat.le_one_iff_eq_zero_or_eq_one.1 hlength with hzero | hone
            · exact List.length_eq_zero_iff.1 hzero
            · exact absurd (stranded_of_cons hundisturbed hoptions hafter hfront hback hone)
                hstranded
      rw [request, expression_of_cons hoptions hbefore, hfront, hback, hleftOver]
      rfl
    · cases hrest

/-- Of two candidates none is evaluated. -/
theorem request_of_two_candidates (h : 2 ≤ invocation.candidates.length) :
    ∃ texts, invocation.request = .refuse (.leftOver texts) := by
  rcases invocation.options_cases with hnone | ⟨before, first, after, hoptions, hbefore⟩
  · have hexpression := expression_of_none hnone
    rw [candidates] at h
    cases htail : invocation.tail.drop 1 with
    | nil =>
        rw [htail] at hexpression h
        match htexts : invocation.options.filterMap Argument.text? with
        | [] | [_] => simp [htexts] at h
        | first :: second :: more =>
            refine ⟨first :: second :: more, ?_⟩
            rw [request, hexpression, htexts, List.tail_nil, List.append_nil]
            rfl
    | cons text more =>
        rw [htail] at hexpression h
        refine ⟨_, request_of_leftOver hexpression ?_⟩
        rintro hnil
        rw [List.tail_cons] at hnil
        simp only [List.length_append, List.length_cons] at h
        have hlength := congrArg List.length hnil
        simp only [List.length_append, List.length_nil] at hlength
        omega
  · refine ⟨_, request_of_leftOver (expression_of_cons hoptions hbefore) fun hnil => ?_⟩
    obtain ⟨htexts, htail⟩ := List.append_eq_nil_iff.1 hnil
    obtain ⟨hfront, hback⟩ := List.append_eq_nil_iff.1 htexts
    have hdrop : invocation.tail.drop 1 = [] := by
      split at htail
      · exact htail
      · rw [htail]
        rfl
    rw [candidates_of_cons hoptions, hfront, hback, hdrop] at h
    simp at h

theorem not_stranded_of_length_ne (h : invocation.tail.length ≠ 1) : ¬invocation.Stranded := by
  intro hstranded
  obtain ⟨-, -, -, -, -, -, hlength⟩ := hstranded
  exact h hlength

theorem Stranded.undisturbed (h : invocation.Stranded) : invocation.Undisturbed := by
  obtain ⟨before, text, after, hoptions, -, hverbosity, -⟩ := h
  intro argument hmem
  rw [hoptions, List.mem_append, List.mem_cons] at hmem
  rcases hmem with hmem | rfl | hmem
  · exact (Argument.isVerbosity_iff.1 (hverbosity argument (List.mem_append_left _ hmem))).1
  · rfl
  · exact (Argument.isVerbosity_iff.1 (hverbosity argument (List.mem_append_right _ hmem))).1

/-- A stranded candidate is the only one, and it is refused. -/
theorem candidates_of_stranded (h : invocation.Stranded) :
    (∃ text, invocation.candidates = [text])
      ∧ ∃ texts, invocation.action = .refuse (.leftOver texts) := by
  rw [action_of_undisturbed h.undisturbed]
  obtain ⟨before, text, after, hoptions, hafter, hverbosity, htail⟩ := h
  have htext (argument : Argument) (hmem : argument ∈ before ++ after) : argument.text? = none :=
    (Argument.isVerbosity_iff.1 (hverbosity argument hmem)).2
  have hfront : before.filterMap Argument.text? = [] :=
    List.filterMap_eq_nil_iff.2 fun a ha => htext a (List.mem_append_left _ ha)
  have hback : after.filterMap Argument.text? = [] :=
    List.filterMap_eq_nil_iff.2 fun a ha => htext a (List.mem_append_right _ ha)
  refine ⟨⟨text, ?_⟩, invocation.tail, ?_⟩
  · rw [candidates_of_cons hoptions, hfront, hback, List.drop_eq_nil_iff.2 (by omega)]
    rfl
  · have hexpression := expression_of_cons hoptions fun argument hmem =>
      Argument.isExpression_of_text?_eq_none (htext argument (List.mem_append_left _ hmem))
    rw [hfront, hback, if_neg hafter] at hexpression
    refine request_of_leftOver hexpression fun hnil => ?_
    rw [hnil] at htail
    cases htail

end Invocation

end PocketScheme.Command
