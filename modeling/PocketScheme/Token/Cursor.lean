/-
A cursor in a text, and the tokens from it on.

A cursor is the text that is left and the place where that starts. The
next token is the first lexeme of what is left; at the end it is the
token for the end of the input, again and again. `lex` collects the
tokens of a whole text, up to its end or up to the first place where no
lexeme starts.
-/
import PocketScheme.Token.Lexeme

namespace PocketScheme

/-- The text that is left, and the place where it starts. -/
structure Cursor where
  rest : List Char
  position : Position := {}

/-- The tokens of a text up to its end, the token for the end included,
or up to a failure. -/
structure Lexing where
  tokens : List Token
  failure : Option Failure

namespace Cursor

/-- The failure where no lexeme starts: at a double quote it is the
input that ends too early, at any other character the character is at
fault. -/
def noLexeme (c : Char) (position : Position) : Failure :=
  if c = '"' then .unreadable "unexpected end of input; expecting \"\\\"\"" position
  else .unreadable (.ofList ("unexpected character \"".toList ++ [c, '"'])) position

/-- The next token and the cursor after it. -/
def next (cursor : Cursor) : Except Failure (Token × Cursor) :=
  match Lexeme.first? cursor.rest with
  | some lexeme =>
    .ok (⟨lexeme.kind, lexeme.text, cursor.position⟩,
      ⟨lexeme.rest, cursor.position.after lexeme.text⟩)
  | none =>
    match cursor.rest with
    | [] => .ok (⟨.endOfInput, [], cursor.position⟩, cursor)
    | c :: _ => .error (noLexeme c cursor.position)

/-- A token other than the end of the input leaves a shorter text. -/
theorem length_rest_lt_of_next {cursor after : Cursor} {token : Token}
    (h : cursor.next = .ok (token, after)) (hkind : token.kind ≠ .endOfInput) :
    after.rest.length < cursor.rest.length := by
  simp only [next] at h
  split at h
  · rename_i hfirst
    cases h
    exact Lexeme.length_rest_lt hfirst
  · split at h
    · cases h
      exact absurd rfl hkind
    · cases h

/-- The tokens from a cursor on. -/
def lex (cursor : Cursor) : Lexing :=
  match _h : cursor.next with
  | .error failure => ⟨[], some failure⟩
  | .ok (token, after) =>
    if _hend : token.kind = .endOfInput then ⟨[token], none⟩
    else
      let more := lex after
      ⟨token :: more.tokens, more.failure⟩
termination_by cursor.rest.length
decreasing_by exact length_rest_lt_of_next ‹_› ‹_›

end Cursor

/-- The tokens of a text. -/
def lex (text : List Char) : Lexing := Cursor.lex ⟨text, {}⟩

end PocketScheme
