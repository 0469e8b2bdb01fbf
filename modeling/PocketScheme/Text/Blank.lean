/-
Blanks: the characters that separate, and what it is to strip them from
the ends of a text.

The set is the whole of Unicode's white space together with the four
information separators 1C to 1F; it is wider than the blanks of
`Char.isWhitespace`, all of which it holds (`isBlank_of_isWhitespace`).
-/
import PocketScheme.Text.Ranges

namespace PocketScheme.Text

/-- The code points of blanks, ascending. -/
def blankRanges : Ranges where
  list := [
    (0x9, 0xD), (0x1C, 0x20), (0x85, 0x85), (0xA0, 0xA0), (0x1680, 0x1680),
    (0x2000, 0x200A), (0x2028, 0x2029), (0x202F, 0x202F), (0x205F, 0x205F),
    (0x3000, 0x3000)]

/-- Whether a character separates and has no ink. -/
def isBlank (c : Char) : Bool := blankRanges.holds c.toNat

/-- Drops the blanks at the front. -/
def stripFront (cs : List Char) : List Char := cs.dropWhile isBlank

/-- Drops the blanks at the back. -/
def stripBack (cs : List Char) : List Char := (cs.reverse.dropWhile isBlank).reverse

/-- Drops the blanks at both ends. -/
def strip (cs : List Char) : List Char := stripBack (stripFront cs)

/-- Every blank of the narrower, ASCII notion is one. -/
theorem isBlank_of_isWhitespace {c : Char} (h : c.isWhitespace = true) : isBlank c = true := by
  simp only [Char.isWhitespace, Bool.or_eq_true, decide_eq_true_eq] at h
  rcases h with ((rfl | rfl) | rfl) | rfl <;> decide

end PocketScheme.Text
