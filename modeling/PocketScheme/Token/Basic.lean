/-
Tokens: the lexemes of a text with their kind and their place.

The end of the input is a token too, with no text, so that a reader
always has a token to look at and a failure always has a place.
-/
import PocketScheme.Failure

namespace PocketScheme

/-- What a token is. -/
inductive Kind where
  | whitespace
  | quote
  | leftParen
  | rightParen
  | point
  | string
  | number
  | atom
  | endOfInput
  deriving DecidableEq, Repr

/-- A lexeme at its place in a text. The text of a string token holds
its quotes. -/
structure Token where
  kind : Kind
  text : List Char
  position : Position
  deriving DecidableEq, Repr

namespace Token

/-- How a message speaks of a token. -/
def describe (token : Token) : List Char :=
  match token.kind with
  | .endOfInput => "end of input".toList
  | .whitespace => "whitespace".toList
  | _ => '"' :: token.text ++ ['"']

/-- The failure of finding a token where something else was expected. -/
def unexpected (token : Token) (expecting : String) : Failure :=
  .unreadable
    (.ofList ("unexpected ".toList ++ token.describe ++ "; expecting ".toList ++ expecting.toList))
    token.position

end Token

end PocketScheme
