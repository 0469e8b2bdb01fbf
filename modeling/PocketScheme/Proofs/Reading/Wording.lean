/-
What a failed reading says: which words, and which characters of the
text.

A failure names the character at which no token starts, or the token that
cannot come next together with what was expected instead. The words are a
few fixed ones (`expectations`), so all that can differ from text to text
comes out of the text itself. That is an invariant of the stream: what
waits in it and what is behind it are characters of the text, and every
token is made of them.
-/
import PocketScheme.Proofs.Reading.Machine

namespace PocketScheme

/-- What can be expected where something else stands. -/
def expectations : List String :=
  ["expression", "space or \")\"", "space", "\")\"", "end of input"]

/-- The failures to read a text: each names a character of the text, or a
token made of such characters and what was expected instead. -/
inductive Complains (text : List Char) : Failure → Prop where
  | noLexeme {c : Char} (p : Position) : c ∈ text → Complains text (Cursor.noLexeme c p)
  | unexpected {token : Token} {expecting : String} :
      token.text ⊆ text → expecting ∈ expectations →
      Complains text (token.unexpected expecting)

/-- What is refused is refused for one of the expectations. -/
theorem Reading.mem_expectations {token : Token} {reading : Reading} {expecting : String}
    (h : reading.step token = .error expecting) : expecting ∈ expectations := by
  have hstart {stack : List Frame} (h : start token stack = .error expecting) :
      expecting = "expression" := by
    unfold start at h
    split at h <;> cases h
    rfl
  cases reading with
  | form stack =>
      rw [hstart h]
      decide
  | opened stack | afterSpace first more stack =>
      rw [step] at h
      split at h
      · cases h
      · rw [hstart h]
        decide
  | afterItem first more stack =>
      rw [step] at h
      split at h <;> cases h
      decide
  | afterPoint first more stack | afterTail first more tail stack =>
      rw [step] at h
      split at h <;> cases h
      decide
  | done v =>
      cases h
      decide

namespace Cursor

variable {text : List Char} {cursor after : Cursor}

/-- The next token is made of the text that is left, and the rest stays
behind. -/
theorem subset_of_next {token : Token} (h : cursor.next = .ok (token, after)) :
    token.text ⊆ cursor.rest ∧ after.rest ⊆ cursor.rest := by
  unfold next at h
  split at h
  · next lexeme hfirst =>
      cases h
      rw [← List.append_subset, Lexeme.text_append_rest hfirst]
      exact List.Subset.refl _
  · split at h
    · cases h
      exact ⟨List.nil_subset _, List.Subset.refl _⟩
    · cases h

theorem complains_of_next (hrest : cursor.rest ⊆ text) {failure : Failure}
    (h : cursor.next = .error failure) : Complains text failure := by
  unfold next at h
  split at h
  · cases h
  · split at h
    · cases h
    · next c rest hcursor =>
        cases h
        exact .noLexeme _ (hrest (by simp [hcursor]))

end Cursor

namespace TokenStream

variable {text : List Char} {stream stream' : TokenStream}

/-- A stream that holds only characters of a text. -/
structure Within (text : List Char) (stream : TokenStream) : Prop where
  ahead : ∀ token ∈ stream.ahead, token.text ⊆ text
  rest : stream.cursor.rest ⊆ text

theorem within_ofText (text : List Char) : (ofText text).Within text where
  ahead _ h := nomatch h
  rest := List.Subset.refl text

namespace Within

theorem peek_of_ok (h : stream.Within text) {token : Token}
    (hpeek : stream.peek = (.ok token, stream')) : token.text ⊆ text ∧ stream'.Within text := by
  unfold peek at hpeek
  split at hpeek
  · next hahead =>
      cases hpeek
      exact ⟨h.ahead token hahead, h⟩
  · split at hpeek
    · next hnext =>
        cases hpeek
        obtain ⟨htoken, hafter⟩ := Cursor.subset_of_next hnext
        have htoken' := List.Subset.trans htoken h.rest
        refine ⟨htoken', fun token hahead => ?_, List.Subset.trans hafter h.rest⟩
        cases hahead
        exact htoken'
    · cases hpeek

theorem peek_of_error (h : stream.Within text) {failure : Failure}
    (hpeek : stream.peek = (.error failure, stream')) : Complains text failure := by
  unfold peek at hpeek
  split at hpeek
  · cases hpeek
  · split at hpeek
    · cases hpeek
    · next hnext =>
        cases hpeek
        exact Cursor.complains_of_next h.rest hnext

theorem take (h : stream.Within text) (token : Token) : (stream.take token).Within text := by
  unfold TokenStream.take
  split
  · exact h
  · exact ⟨fun _ hahead => (nomatch hahead), h.rest⟩

theorem expect_of_error (h : stream.Within text) {kind : Kind} {expecting : String}
    (hexpecting : expecting ∈ expectations) {failure : Failure}
    (hexpect : stream.expect kind expecting = (.error failure, stream')) :
    Complains text failure := by
  unfold expect at hexpect
  cases hpeek : stream.peek with
  | mk result after =>
      rw [hpeek] at hexpect
      cases result with
      | error failure' =>
          cases hexpect
          exact h.peek_of_error hpeek
      | ok token =>
          simp only at hexpect
          split at hexpect <;> cases hexpect
          exact .unexpected (h.peek_of_ok hpeek).1 hexpecting

/-- A run leaves only characters of the text, and complains of nothing
else. -/
theorem run (h : stream.Within text) (reading : Reading) :
    (∀ v, reading.run stream = (.ok v, stream') → stream'.Within text)
      ∧ ∀ failure, reading.run stream = (.error failure, stream') → Complains text failure := by
  -- along the run: each case is one look at the stream and one step
  induction reading, stream using Reading.run.induct with
  | case1 stream v =>
      rw [Reading.run.eq_1]
      refine ⟨fun w hrun => ?_, fun failure hrun => ?_⟩
      · cases hrun
        exact h
      · cases hrun
  | case2 stream reading hundone failure after hpeek =>
      rw [Reading.run_of_peek_error hundone hpeek]
      refine ⟨fun w hrun => ?_, fun failure hrun => ?_⟩
      · cases hrun
      · cases hrun
        exact h.peek_of_error hpeek
  | case3 stream reading hundone token after hpeek expecting hstep =>
      rw [Reading.run_of_step_error hundone hpeek hstep]
      refine ⟨fun w hrun => ?_, fun failure hrun => ?_⟩
      · cases hrun
      · cases hrun
        exact .unexpected (h.peek_of_ok hpeek).1 (Reading.mem_expectations hstep)
  | case4 stream reading hundone token after hpeek next hstep ih =>
      rw [Reading.run_of_step_ok hpeek hstep]
      exact ih ((h.peek_of_ok hpeek).2.take token)

end Within

end TokenStream

/-- A text that is no expression is complained of in its own
characters. -/
theorem complains_of_read {text : List Char} {failure : Failure}
    (h : read text = .error failure) : Complains text failure := by
  have hstart := TokenStream.within_ofText text
  unfold read at h
  split at h
  · next hrun =>
      cases h
      exact (hstart.run (.form [])).2 _ hrun
  · next v stream hrun =>
      have hstream := (hstart.run (.form [])).1 v hrun
      split at h
      · next hexpect =>
          cases h
          exact hstream.expect_of_error (by decide) hexpect
      · cases h

end PocketScheme
