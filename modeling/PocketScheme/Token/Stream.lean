/-
A stream of tokens with one token of look-ahead.

The stream takes a token from its text only when somebody looks at it,
so that a place where no lexeme starts does no harm until it is reached.
The token looked at waits in the stream until it is taken; the token for
the end of the input is never taken, so that a stream at its end answers
it to every further question, and its text is not asked again.

Every operation answers together with the stream it leaves, also when it
fails: `expect` on the wrong token leaves that token waiting.
-/
import PocketScheme.Token.Cursor

namespace PocketScheme

/-- The token that waits, if any, and the text behind it. -/
structure TokenStream where
  ahead : Option Token
  cursor : Cursor

namespace TokenStream

/-- The stream of the tokens of a text. -/
def ofText (text : List Char) : TokenStream := ⟨none, ⟨text, {}⟩⟩

/-- The next token, which stays in the stream. -/
def peek (stream : TokenStream) : Except Failure Token × TokenStream :=
  match stream.ahead with
  | some token => (.ok token, stream)
  | none =>
    match stream.cursor.next with
    | .ok (token, after) => (.ok token, ⟨some token, after⟩)
    | .error failure => (.error failure, stream)

/-- Takes a token that waits out of the stream; the end of the input
stays. -/
def take (token : Token) (stream : TokenStream) : TokenStream :=
  if token.kind = .endOfInput then stream else { stream with ahead := none }

/-- The next token, which leaves the stream. -/
def advance (stream : TokenStream) : Except Failure Token × TokenStream :=
  match stream.peek with
  | (.ok token, stream) => (.ok token, stream.take token)
  | refused => refused

/-- The next token, which has to be of a kind to leave the stream. -/
def expect (kind : Kind) (expecting : String) (stream : TokenStream) :
    Except Failure Token × TokenStream :=
  match stream.peek with
  | (.ok token, stream) =>
    if token.kind = kind then (.ok token, stream.take token)
    else (.error (token.unexpected expecting), stream)
  | refused => refused

/-- What is left in a stream: its text, and the token that waits counted
as less than a character of text. -/
def weight (stream : TokenStream) : Nat :=
  2 * stream.cursor.rest.length + if stream.ahead.isSome then 1 else 0

/-- A token looked at and taken, other than the end of the input, makes
the stream lighter. -/
theorem weight_take_lt {stream stream' : TokenStream} {token : Token}
    (h : stream.peek = (.ok token, stream')) (hkind : token.kind ≠ .endOfInput) :
    (stream'.take token).weight < stream.weight := by
  simp only [peek] at h
  split at h
  · rename_i hahead
    cases h
    simp [take, weight, hkind, hahead]
  · rename_i hahead
    split at h
    · rename_i hnext
      cases h
      have := Cursor.length_rest_lt_of_next hnext hkind
      simp only [take, hkind, if_false, weight, hahead]
      simp
      omega
    · cases h

end TokenStream

end PocketScheme
