/-
An expression read from a stream that is in the middle of its text.

What is taken is a front of what was not yet taken, and that front is the
text of an expression by itself: `read` gives it the same value. Which
front it is depends on one character more. An atom and a number go on as
far as they can, so the text behind them must not go on with them
(`EndsBefore`); a string and a list end with their last character, and
nothing behind it is looked at.

# Two rests

A stretch of a run is told with the rest in front of which it is taken,
and only its last lexeme looks at that rest. So a stretch that is taken
at the end of a text is taken in front of any rest that its last lexeme
stops at (`Takes.of_last`). The last lexeme of an expression is an atom
or a number with nothing but apostrophes in front of it, or it ends with
a mark that ends its lexeme as well (`Spells.ends`).
-/
import PocketScheme.Proofs.Reading.Acceptance
import PocketScheme.Proofs.Stream.Request

namespace PocketScheme

open Text

-- ====================================================== where lexemes end

/-- A lexeme inside an atom, or inside the apostrophes in front of one,
stops where atoms stop. -/
theorem IsLexeme.stops_of_continuesAtom {kind : Kind} {lexeme rest : List Char}
    (h : IsLexeme kind lexeme) (hall : ∀ c ∈ lexeme, c = '\'' ∨ continuesAtom c = true)
    (hrest : Stops continuesAtom rest) : Stops kind.goesOn rest := by
  cases kind with
  | whitespace =>
      have hrun : Run isBlank lexeme := h
      obtain ⟨c, body, rfl, hblank, -⟩ := hrun.eq_cons
      rcases hall c (.head _) with rfl | hc
      · exact absurd hblank (by decide)
      · rw [continuesAtom_of_isBlank hblank] at hc
        cases hc
  | number => exact hrest.of_imp continuesAtom_of_isDigit
  | atom => exact hrest
  | _ => exact fun _ _ => rfl

/-- A lexeme inside a number, or inside the apostrophes in front of one,
stops where numbers stop. -/
theorem IsLexeme.stops_of_isDigit {kind : Kind} {lexeme rest : List Char}
    (h : IsLexeme kind lexeme) (hall : ∀ c ∈ lexeme, c = '\'' ∨ c.isDigit = true)
    (hrest : Stops Char.isDigit rest) : Stops kind.goesOn rest := by
  -- the first character decides the kind
  obtain ⟨c, body, rfl, hc⟩ := h.eq_cons
  rcases hall c (.head _) with rfl | hdigit
  · obtain rfl : Kind.quote = kind := Option.some.inj hc
    exact fun _ _ => rfl
  · have hnumber : Kind.ofChar? c = some .number := Kind.ofChar?_eq_some_iff.2 hdigit
    rw [hnumber] at hc
    obtain rfl : Kind.number = kind := Option.some.inj hc
    exact hrest

/-- A lexeme that ends with a mark stops at anything. -/
theorem IsLexeme.stops_of_mark {kind : Kind} {before : List Char} {c : Char}
    (h : IsLexeme kind (before ++ [c])) (hc : c ∈ marks) (rest : List Char) :
    Stops kind.goesOn rest := by
  obtain ⟨hblank, hcontinues⟩ := marks_plain hc
  cases kind with
  | whitespace =>
      rw [h.2 c (by simp)] at hblank
      cases hblank
  | number =>
      rw [continuesAtom_of_isDigit (h.2 c (by simp))] at hcontinues
      cases hcontinues
  | atom =>
      rw [continuesAtom_of_isAtom h c (by simp)] at hcontinues
      cases hcontinues
  | _ => exact fun _ _ => rfl

/-- Whether an expression is at its end in front of a rest. Only an atom
and a number could go on, bare or behind apostrophes: an atom with any
character that goes on atoms, a number with a digit. -/
structure EndsBefore (expression rest : List Char) : Prop where
  atom {n : Nat} {name : List Char} :
    expression = List.replicate n '\'' ++ name → IsAtom name → Stops continuesAtom rest
  number {n : Nat} {digits : List Char} :
    expression = List.replicate n '\'' ++ digits → Run Char.isDigit digits →
      Stops Char.isDigit rest

/-- The end of an expression is that of an atom or of a number, with
nothing but apostrophes in front of it, or a mark. -/
theorem Spells.ends {text : List Char} {v : Value} (h : Spells text (.form v)) :
    (∃ n name, text = List.replicate n '\'' ++ name ∧ IsAtom name)
      ∨ (∃ n digits, text = List.replicate n '\'' ++ digits ∧ Run Char.isDigit digits)
      ∨ ∃ before mark, text = before ++ [mark] ∧ mark ∈ marks := by
  generalize hphrase : Phrase.form v = phrase at h
  induction h generalizing v with
  | truth => exact .inl ⟨0, _, rfl, by decide⟩
  | falsity => exact .inl ⟨0, _, rfl, by decide⟩
  | @atom text hatom => exact .inl ⟨0, text, rfl, hatom⟩
  | @string body => exact .inr (.inr ⟨'"' :: body, '"', rfl, by decide⟩)
  | @number digits hrun => exact .inr (.inl ⟨0, digits, rfl, hrun⟩)
  | quoted _ ih =>
      rcases ih rfl with ⟨n, name, rfl, hatom⟩ | ⟨n, digits, rfl, hrun⟩ | ⟨before, mark, rfl, hmark⟩
      · exact .inl ⟨n + 1, name, rfl, hatom⟩
      · exact .inr (.inl ⟨n + 1, digits, rfl, hrun⟩)
      · exact .inr (.inr ⟨'\'' :: before, mark, rfl, hmark⟩)
  | empty => exact .inr (.inr ⟨['('], ')', rfl, by decide⟩)
  | @list text => exact .inr (.inr ⟨'(' :: text, ')', rfl, by decide⟩)
  | dotted => exact .inr (.inr ⟨'(' :: _, ')', rfl, by decide⟩)
  | one => cases hphrase
  | snoc => cases hphrase

/-- What starts with an opening parenthesis ends with a mark. -/
theorem Spells.ends_of_parenthesis {text : List Char} {v : Value}
    (h : Spells ('(' :: text) (.form v)) :
    ∃ before mark, text = before ++ [mark] ∧ mark ∈ marks := by
  generalize hphrase : Phrase.form v = phrase at h
  generalize htext : '(' :: text = text' at h
  cases h with
  | atom hatom =>
      subst htext
      exact absurd hatom.1 (by decide)
  | number hrun =>
      subst htext
      exact absurd (hrun.2 '(' (.head _)) (by decide)
  | empty =>
      cases htext
      exact ⟨[], ')', rfl, by decide⟩
  | list =>
      cases htext
      exact ⟨_, ')', rfl, by decide⟩
  | dotted =>
      cases htext
      exact ⟨_, ')', rfl, by decide⟩
  | one => cases hphrase
  | snoc => cases hphrase
  | _ => cases htext

theorem eq_or_of_mem_quotes {n : Nat} {text : List Char} {c : Char}
    (h : c ∈ List.replicate n '\'' ++ text) : c = '\'' ∨ c ∈ text := by
  rcases List.mem_append.1 h with hquote | htext
  · exact .inl (List.eq_of_mem_replicate hquote)
  · exact .inr htext

/-- The last lexeme of a text that ends with a mark ends with it. -/
theorem IsLexeme.eq_concat {kind : Kind} {before lexeme before' : List Char} {mark : Char}
    (h : IsLexeme kind lexeme) (hsplit : before ++ lexeme = before' ++ [mark]) :
    ∃ front, lexeme = front ++ [mark] := by
  obtain ⟨c, body, rfl, -⟩ := h.eq_cons
  rcases List.eq_nil_or_concat (c :: body) with hnil | ⟨front, last, hlexeme⟩
  · cases hnil
  · rw [List.concat_eq_append] at hlexeme
    rw [hlexeme, ← List.append_assoc] at hsplit
    obtain ⟨-, hlast⟩ := List.append_inj' hsplit rfl
    exact ⟨front, by rw [hlexeme, hlast]⟩

/-- The last lexeme of an expression that is at its end stops there. -/
theorem EndsBefore.stops {text rest : List Char} {v : Value} (h : EndsBefore text rest)
    (hspells : Spells text (.form v)) {before lexeme : List Char} {kind : Kind}
    (hsplit : text = before ++ lexeme) (hlexeme : IsLexeme kind lexeme) :
    Stops kind.goesOn rest := by
  have hmem {c : Char} (hc : c ∈ lexeme) : c ∈ text := hsplit ▸ List.mem_append_right before hc
  rcases hspells.ends with ⟨n, name, htext, hatom⟩ | ⟨n, digits, htext, hrun⟩
    | ⟨before', mark, htext, hmark⟩
  · refine hlexeme.stops_of_continuesAtom (fun c hc => ?_) (h.atom htext hatom)
    exact (eq_or_of_mem_quotes (htext ▸ hmem hc)).imp_right (continuesAtom_of_isAtom hatom c)
  · refine hlexeme.stops_of_isDigit (fun c hc => ?_) (h.number htext hrun)
    exact (eq_or_of_mem_quotes (htext ▸ hmem hc)).imp_right (hrun.2 c)
  · obtain ⟨front, rfl⟩ := hlexeme.eq_concat (hsplit.symm.trans htext)
    exact hlexeme.stops_of_mark hmark rest

namespace Reading

-- ============================================================== two rests

variable {reading reading' : Reading} {kind : Kind} {rest rest' text lexeme more : List Char}

/-- A stretch is taken in front of another rest if its last lexeme stops
there. -/
theorem Takes.of_last (h : Takes rest reading text reading')
    (hlast : ∀ before kind lexeme, text = before ++ lexeme → IsLexeme kind lexeme →
      Stops kind.goesOn rest') : Takes rest' reading text reading' := by
  induction h with
  | refl reading => exact .refl reading
  | @step reading reading' reading'' kind lexeme more hlexeme hstops hstep _ ih =>
      have hmore : Takes rest' reading' more reading'' := by
        refine ih fun before kind' lexeme' hsplit => ?_
        exact hlast (lexeme ++ before) kind' lexeme' (by rw [hsplit, List.append_assoc])
      refine .step hlexeme ?_ hstep hmore
      cases more with
      | nil => exact hlast [] kind lexeme (by simp) hlexeme
      | cons c more => exact stops_cons.2 (stops_cons.1 hstops)

/-- The lexeme in front of a stretch is the first to be taken. -/
theorem Takes.of_lexeme_append (h : Takes rest reading (lexeme ++ more) reading')
    (hlexeme : IsLexeme kind lexeme) (hstops : Stops kind.goesOn (more ++ rest)) :
    ∃ reading₁, reading.step ⟨kind, lexeme, {}⟩ = .ok reading₁
      ∧ Takes rest reading₁ more reading' := by
  generalize htext : lexeme ++ more = text at h
  cases h with
  | refl =>
      obtain ⟨c, body, rfl, -⟩ := hlexeme.eq_cons
      cases htext
  | @step _ reading₁ _ kind' lexeme' more' hlexeme' hstops' hstep hmore =>
      have hfirst := Lexeme.first?_eq_some_iff.2 ⟨rfl, hlexeme, hstops⟩
      have hfirst' := Lexeme.first?_eq_some_iff.2 ⟨rfl, hlexeme', hstops'⟩
      rw [← List.append_assoc, htext, List.append_assoc, hfirst'] at hfirst
      obtain ⟨rfl, rfl, hrest⟩ := Lexeme.mk.inj (Option.some.inj hfirst)
      obtain rfl := List.append_cancel_right hrest
      exact ⟨reading₁, hstep, hmore⟩

/-- A lexeme that is taken as a whole ends where the rest starts, unless
it is a string. -/
theorem Takes.stops_of_lexeme (h : Takes rest reading lexeme reading')
    (hlexeme : IsLexeme kind lexeme) (hkind : kind ≠ .string) : Stops kind.goesOn rest := by
  obtain ⟨c, body, rfl, hc⟩ := hlexeme.eq_cons
  generalize htext : c :: body = text at h
  cases h with
  | refl => cases htext
  | @step _ _ _ kind' lexeme' more hlexeme' hstops' _ _ =>
      obtain ⟨c', body', rfl, hc'⟩ := hlexeme'.eq_cons
      obtain ⟨rfl, rfl⟩ := List.cons.inj htext
      obtain rfl : kind = kind' := Option.some.inj (hc.symm.trans hc')
      -- a character after the first part goes on the lexeme, so there is none
      cases more with
      | nil => exact hstops'
      | cons d more =>
          have hbody := ((isLexeme_cons_iff hkind).1 hlexeme).2
          have hd : kind.goesOn d = true := hbody d (by simp)
          rw [stops_cons.1 hstops'] at hd
          cases hd

/-- So does a lexeme that is taken behind apostrophes. -/
theorem Takes.stops_of_quotes {n : Nat}
    (h : Takes rest reading (List.replicate n '\'' ++ lexeme) reading')
    (hlexeme : IsLexeme kind lexeme) (hkind : kind ≠ .string) : Stops kind.goesOn rest := by
  induction n generalizing reading with
  | zero => exact Takes.stops_of_lexeme h hlexeme hkind
  | succ n ih =>
      have hquote : IsLexeme .quote ['\''] := rfl
      have hcons : Takes rest reading (['\''] ++ (List.replicate n '\'' ++ lexeme)) reading' := h
      obtain ⟨_, -, hmore⟩ := hcons.of_lexeme_append hquote (fun _ _ => rfl)
      exact ih hmore

-- =========================================================== expressions

/-- The machine takes a text as an expression in front of a rest exactly
if the text reads as that expression and is at its end there. -/
theorem takes_done_iff {text : List Char} {v : Value} :
    Takes rest (form []) text (done v) ↔ read text = .ok v ∧ EndsBefore text rest := by
  constructor
  · intro h
    have hspells : Spells text (.form v) := reached_of_takes h
    refine ⟨read_eq_ok_iff_spells.2 hspells, ⟨?_, ?_⟩⟩
    · rintro n name rfl hatom
      have hlexeme : IsLexeme .atom name := hatom
      exact h.stops_of_quotes hlexeme (by decide)
    · rintro n digits rfl hrun
      have hlexeme : IsLexeme .number digits := hrun
      exact h.stops_of_quotes hlexeme (by decide)
  · rintro ⟨hread, hends⟩
    have hspells := read_eq_ok_iff_spells.1 hread
    refine (read_eq_ok_iff_takes.1 hread).of_last fun before kind lexeme hsplit hlexeme => ?_
    exact hends.stops hspells hsplit hlexeme

/-- It takes a text as what is behind the opening parenthesis of a list,
in front of any rest, exactly if the text with that parenthesis reads as
the list. -/
theorem takes_opened_done_iff {text : List Char} {v : Value} :
    Takes rest (opened []) text (done v) ↔ read ('(' :: text) = .ok v := by
  have hopening : IsLexeme .leftParen ['('] := rfl
  constructor
  · intro h
    have hopen : Takes (text ++ rest) (form []) ['('] (opened []) :=
      .single .leftParen hopening (fun _ _ => rfl) rfl
    have hspells : Spells ('(' :: text) (.form v) := reached_of_takes (hopen.trans h)
    exact read_eq_ok_iff_spells.2 hspells
  · intro hread
    have htakes : Takes [] (form []) (['('] ++ text) (done v) := read_eq_ok_iff_takes.1 hread
    obtain ⟨reading₁, hstep, hmore⟩ := htakes.of_lexeme_append hopening (fun _ _ => rfl)
    cases hstep
    obtain ⟨before', mark, htext, hmark⟩ := (read_eq_ok_iff_spells.1 hread).ends_of_parenthesis
    refine hmore.of_last fun before kind lexeme hsplit hlexeme => ?_
    obtain ⟨front, rfl⟩ := hlexeme.eq_concat (hsplit.symm.trans htext)
    exact hlexeme.stops_of_mark hmark rest

end Reading

namespace TokenStream

variable {p : Position} {rest rest' : List Char} {stream : TokenStream} {v : Value}

/-- A reading that starts on a stream has a value if a front of what is
not yet taken takes it to its end, and it leaves the rest of that. -/
theorem StandsAt.run_iff (h : StandsAt p rest stream) {reading : Reading}
    (hundone : ∀ v, reading ≠ .done v) :
    (reading.run stream).1 = .ok v ∧ (reading.run stream).2.unconsumed = rest' ↔
      ∃ taken, rest = taken ++ rest' ∧ Reading.Takes rest' reading taken (.done v) := by
  have hplace : reading.run stream = reading.run (startingAt p rest) := by
    rcases h with rfl | rfl
    · rfl
    · exact Reading.run_peek hundone _
  rw [hplace]
  constructor
  · rintro ⟨hvalue, rfl⟩
    have hrun : reading.run (startingAt p rest) = (.ok v, (reading.run (startingAt p rest)).2) := by
      rw [← hvalue]
    obtain ⟨taken, rest', hrest, htakes, hafter⟩ := Reading.run_startingAt_eq_ok_iff.1 hrun
    rw [hafter]
    exact ⟨taken, hrest, htakes⟩
  · rintro ⟨taken, hrest, htakes⟩
    rw [Reading.run_startingAt_eq_ok_iff.2 ⟨taken, rest', hrest, htakes, rfl⟩]
    exact ⟨rfl, rfl⟩

variable {text text' : List Char}

theorem Reachable.readExpression_iff (h : stream.Reachable text) :
    stream.readExpression.1 = .ok v ∧ stream.readExpression.2.unconsumed = rest ↔
      ∃ expression, stream.unconsumed = expression ++ rest
        ∧ read expression = .ok v ∧ EndsBefore expression rest := by
  obtain ⟨passed, unread, -, hstands⟩ := h.exists_standsAt
  rw [readExpression, hstands.run_iff (by simp), hstands.unconsumed_eq]
  simp only [Reading.takes_done_iff]

theorem Reachable.readList_iff (h : stream.Reachable text) :
    stream.readList.1 = .ok v ∧ stream.readList.2.unconsumed = rest ↔
      ∃ items, stream.unconsumed = items ++ rest ∧ read ('(' :: items) = .ok v := by
  obtain ⟨passed, unread, -, hstands⟩ := h.exists_standsAt
  rw [readList, hstands.run_iff (by simp), hstands.unconsumed_eq]
  simp only [Reading.takes_opened_done_iff]

/-- Two rests that start with the same character end the same
expressions. -/
theorem endsBefore_congr {expression : List Char} (h : rest.head? = rest'.head?) :
    EndsBefore expression rest ↔ EndsBefore expression rest' := by
  have hstops (class? : Char → Bool) : Stops class? rest ↔ Stops class? rest' := by
    rw [Stops, Stops, h]
  constructor
  · intro hends
    exact ⟨fun heq hatom => (hstops _).1 (hends.atom heq hatom),
      fun heq hrun => (hstops _).1 (hends.number heq hrun)⟩
  · intro hends
    exact ⟨fun heq hatom => (hstops _).2 (hends.atom heq hatom),
      fun heq hrun => (hstops _).2 (hends.number heq hrun)⟩

end TokenStream

open TokenStream

/-- An expression read from a stream in the middle of its text is the
text in front of what is left, read by itself. What is not yet taken of
the text, a token that was only looked at included, falls into an
expression that is at its end there and a rest, which is left; and
likewise into the items of a list whose opening parenthesis is taken,
with the closing one, and any rest. So of two streams that have the same
expression in front of them both read it, or neither, if what comes
behind it starts with the same character; for the items of a list that
is no condition. -/
theorem stream_takes_one_expression {text : List Char} {stream : TokenStream}
    (h : stream.Reachable text) :
    stream.unconsumed <:+ text
      ∧ (∀ v rest, stream.readExpression.1 = .ok v ∧ stream.readExpression.2.unconsumed = rest ↔
          ∃ expression, stream.unconsumed = expression ++ rest
            ∧ read expression = .ok v ∧ EndsBefore expression rest)
      ∧ (∀ v rest, stream.readList.1 = .ok v ∧ stream.readList.2.unconsumed = rest ↔
          ∃ items, stream.unconsumed = items ++ rest ∧ read ('(' :: items) = .ok v)
      ∧ ∀ text' other, TokenStream.Reachable text' other → ∀ front rest rest',
          stream.unconsumed = front ++ rest → other.unconsumed = front ++ rest' →
          (rest.head? = rest'.head? → ∀ v,
            (stream.readExpression.1 = .ok v ∧ stream.readExpression.2.unconsumed = rest ↔
              other.readExpression.1 = .ok v ∧ other.readExpression.2.unconsumed = rest'))
            ∧ ∀ v, (stream.readList.1 = .ok v ∧ stream.readList.2.unconsumed = rest ↔
                other.readList.1 = .ok v ∧ other.readList.2.unconsumed = rest') := by
  refine ⟨?_, fun v rest => h.readExpression_iff, fun v rest => h.readList_iff,
    fun text' other h' front rest rest' hfront hfront' => ⟨fun hhead v => ?_, fun v => ?_⟩⟩
  · obtain ⟨passed, unread, rfl, hstands⟩ := h.exists_standsAt
    exact ⟨passed, by rw [hstands.unconsumed_eq]⟩
  · rw [h.readExpression_iff, h'.readExpression_iff, hfront, hfront']
    simp only [List.append_left_inj, endsBefore_congr hhead]
  · rw [h.readList_iff, h'.readList_iff, hfront, hfront']
    simp only [List.append_left_inj]

/-- Behind an atom and a blank, with the apostrophe in front of it looked
at, a number is read up to a letter, whatever is behind that. -/
theorem stream_takes_one_expression_number :
    ∃ stream : TokenStream, stream.Reachable "(a '12x\"".toList
      ∧ stream.ahead = some ⟨.quote, ['\''], ⟨1, 4⟩⟩
      ∧ stream.readExpression.1 = .ok (Reading.quote (.int 12))
      ∧ stream.readExpression.2.unconsumed = "x\"".toList := by
  have hopen : perform .advance (.ofText "(a '12x\"".toList) =
      (.ok (.token ⟨.leftParen, ['('], ⟨1, 1⟩⟩), ⟨none, ⟨"a '12x\"".toList, ⟨1, 2⟩⟩⟩) := by rfl
  have hname : Reading.Takes " '12x\"".toList (.form []) ['a'] (.done (.atom "a")) :=
    Reading.takes_atom (Reading.begins_form []) (by decide) (stops_cons.2 (by decide))
  have hatom : perform .readExpression ⟨none, ⟨"a '12x\"".toList, ⟨1, 2⟩⟩⟩ =
      (.ok (.value (.atom "a")), ⟨none, ⟨" '12x\"".toList, ⟨1, 3⟩⟩⟩) := by
    have hrun : (Reading.form []).run (startingAt ⟨1, 2⟩ "a '12x\"".toList) =
        (.ok (.atom "a"), startingAt ⟨1, 3⟩ " '12x\"".toList) :=
      Reading.run_startingAt_eq_ok_iff.2 ⟨['a'], _, rfl, hname, rfl⟩
    rw [startingAt, startingAt] at hrun
    rw [perform, readExpression, hrun]
    rfl
  have hspace : perform (.expect .whitespace "space") ⟨none, ⟨" '12x\"".toList, ⟨1, 3⟩⟩⟩ =
      (.ok (.token ⟨.whitespace, [' '], ⟨1, 3⟩⟩), ⟨none, ⟨"'12x\"".toList, ⟨1, 4⟩⟩⟩) := by rfl
  have hlook : perform .peek ⟨none, ⟨"'12x\"".toList, ⟨1, 4⟩⟩⟩ =
      (.ok (.token ⟨.quote, ['\''], ⟨1, 4⟩⟩),
        ⟨some ⟨.quote, ['\''], ⟨1, 4⟩⟩, ⟨"12x\"".toList, ⟨1, 5⟩⟩⟩) := by rfl
  have hreachable := (((TokenStream.Reachable.start.answered hopen).answered hatom).answered
    hspace).answered hlook
  have hdigits : Run Char.isDigit ['1', '2'] :=
    Run.cons (by decide) (List.all_eq_true.1 (by decide))
  have hread : read "'12".toList = .ok (Reading.quote (.int 12)) :=
    read_eq_ok_iff_spells.2 (.quoted (.number hdigits))
  have hends : EndsBefore "'12".toList "x\"".toList := by
    refine ⟨fun {n name} htext hatom => ?_, fun _ _ => stops_cons.2 (by decide)⟩
    -- no atom is left of the text, whether the apostrophe belongs to it or not
    cases n with
    | zero =>
        obtain rfl : "'12".toList = name := htext
        exact absurd hatom (by decide)
    | succ n =>
        cases n with
        | zero =>
            obtain ⟨-, rfl⟩ := List.cons.inj htext
            exact absurd hatom (by decide)
        | succ n => cases htext
  exact ⟨_, hreachable, rfl,
    ((stream_takes_one_expression hreachable).2.1 _ _).2 ⟨_, rfl, hread, hends⟩⟩

end PocketScheme
