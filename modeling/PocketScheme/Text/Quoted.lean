/-
Quoted text for inspection: between quote marks, on one line, every
character visible.

The mark is the single quote, unless the text holds single quotes and no
double quote, so that the commonest marks inside need no escape. The
backslash and the mark in use are escaped by a backslash; line feed,
carriage return and tab have short escapes; any other character without
a visible form is written by its code point in hexadecimal, two, four or
eight digits long, whichever is the shortest that fits.
-/
import PocketScheme.Text.Unprintable

namespace PocketScheme.Text.Quoted

/-- The quote mark that goes around a text. -/
def mark (text : List Char) : Char :=
  if text.contains '\'' && !text.contains '"' then '"' else '\''

/-- A number in lower-case hexadecimal, filled with zeros to a width. -/
def hex (width n : Nat) : List Char := (Nat.toDigits 16 n).leftpad width '0'

/-- The escape of a character by its code point. -/
def codePoint (c : Char) : List Char :=
  let n := c.toNat
  if n < 0x100 then '\\' :: 'x' :: hex 2 n
  else if n < 0x10000 then '\\' :: 'u' :: hex 4 n
  else '\\' :: 'U' :: hex 8 n

/-- How a character is written between two marks. -/
def escape (mark c : Char) : List Char :=
  if c = '\\' ∨ c = mark then ['\\', c]
  else if c = '\n' then ['\\', 'n']
  else if c = '\r' then ['\\', 'r']
  else if c = '\t' then ['\\', 't']
  else if isUnprintable c then codePoint c
  else [c]

/-- A text between the marks that suit it. -/
def encode (text : List Char) : List Char :=
  mark text :: text.flatMap (escape (mark text)) ++ [mark text]

end PocketScheme.Text.Quoted
