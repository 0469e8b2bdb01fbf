/-
Lexemes: the pieces that a text falls into, and the classes of
characters that they are made of.

The first character of a lexeme decides its kind, and the lexeme is the
longest text of that kind: blanks, digits and atoms run as far as they
can, a string runs to the next double quote, the other kinds are single
characters. A text has no first lexeme if its first character starts
none, or if it is the double quote of a string that never ends.
-/
import PocketScheme.Text.Blank
import PocketScheme.Text.Letter
import PocketScheme.Token.Basic

namespace PocketScheme

open Text

/-- The characters besides letters and digits that atoms are made of. -/
def symbolChars : List Char :=
  ['!', '#', '$', '%', '&', '|', '*', '+', '-', '/', ':', '<', '=', '>', '?', '@', '^', '_',
    '~']

/-- Whether a character can start an atom. -/
def startsAtom (c : Char) : Bool := symbolChars.contains c || isLetter c

/-- Whether a character can go on an atom. -/
def continuesAtom (c : Char) : Bool := c.isDigit || startsAtom c

/-- A lexeme and the text after it. -/
structure Lexeme where
  kind : Kind
  text : List Char
  rest : List Char

namespace Lexeme

/-- The lexeme that starts with `c` and goes on as long as the
characters are of a class. -/
def span (kind : Kind) (c : Char) (class? : Char → Bool) (rest : List Char) : Lexeme :=
  ⟨kind, c :: rest.takeWhile class?, rest.dropWhile class?⟩

/-- The first lexeme of a text. -/
def first? : List Char → Option Lexeme
  | [] => none
  | c :: rest =>
    if isBlank c then some (span .whitespace c isBlank rest)
    else if c = '\'' then some ⟨.quote, [c], rest⟩
    else if c = '(' then some ⟨.leftParen, [c], rest⟩
    else if c = ')' then some ⟨.rightParen, [c], rest⟩
    else if c = '.' then some ⟨.point, [c], rest⟩
    else if c = '"' then
      match rest.dropWhile (· != '"') with
      | [] => none
      | _ :: after => some ⟨.string, c :: rest.takeWhile (· != '"') ++ ['"'], after⟩
    else if c.isDigit then some (span .number c Char.isDigit rest)
    else if startsAtom c then some (span .atom c continuesAtom rest)
    else none

-- ================================================== nothing is lost

@[simp] theorem span_text_append_rest (kind : Kind) (c : Char) (class? : Char → Bool)
    (rest : List Char) :
    (span kind c class? rest).text ++ (span kind c class? rest).rest = c :: rest := by
  simp [span]

/-- A first lexeme and the text after it are the whole text. -/
theorem text_append_rest {text : List Char} {lexeme : Lexeme} (h : first? text = some lexeme) :
    lexeme.text ++ lexeme.rest = text := by
  cases text with
  | nil => simp [first?] at h
  | cons c rest =>
    simp only [first?] at h
    split at h
    · cases h; simp
    split at h
    · cases h; rfl
    split at h
    · cases h; rfl
    split at h
    · cases h; rfl
    split at h
    · cases h; rfl
    split at h
    · rename_i hc
      split at h
      · exact absurd h (by simp)
      · rename_i d after hdrop
        cases h
        have hd : d = '"' := by
          have := List.head?_dropWhile_not (· != '"') rest
          simpa [hdrop] using this
        have hsplit := List.takeWhile_append_dropWhile (p := (· != '"')) (l := rest)
        rw [hdrop, hd] at hsplit
        simpa using hsplit
    split at h
    · cases h; simp
    split at h
    · cases h; simp
    · exact absurd h (by simp)

/-- A lexeme starts with the first character of the text. -/
theorem text_ne_nil {text : List Char} {lexeme : Lexeme} (h : first? text = some lexeme) :
    lexeme.text ≠ [] := by
  cases text with
  | nil => simp [first?] at h
  | cons c rest => grind [first?, span]

/-- The text after a lexeme is shorter. -/
theorem length_rest_lt {text : List Char} {lexeme : Lexeme} (h : first? text = some lexeme) :
    lexeme.rest.length < text.length := by
  have hlen := congrArg List.length (text_append_rest h)
  have hpos := List.length_pos_iff.2 (text_ne_nil h)
  simp only [List.length_append] at hlen
  omega

/-- No lexeme is the end of the input. -/
theorem kind_ne_endOfInput {text : List Char} {lexeme : Lexeme} (h : first? text = some lexeme) :
    lexeme.kind ≠ .endOfInput := by
  cases text with
  | nil => simp [first?] at h
  | cons c rest => grind [first?, span]

end Lexeme

end PocketScheme
