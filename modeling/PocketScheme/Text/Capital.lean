/-
Upper case, as far as a comparison with words of ASCII letters needs it.

Letter case is that of full upper-casing, under which some characters
beyond ASCII become ASCII letters, one or more: the dotless i, the long
s, the sharp s and the Latin ligatures. `capital` knows all of these.
-/

namespace PocketScheme.Text

/-- The upper-case form of a character, if that consists of ASCII
letters. Any other character stands for itself: a capital is its own
upper-case form, and what is no ASCII letter in upper case is part of no
word of ASCII letters either way. -/
def capital (c : Char) : List Char :=
  if c.isLower then [c.toUpper]
  else
    match c with
    | 'ß' => ['S', 'S']
    | 'ı' => ['I']
    | 'ſ' => ['S']
    | 'ﬀ' => ['F', 'F']
    | 'ﬁ' => ['F', 'I']
    | 'ﬂ' => ['F', 'L']
    | 'ﬃ' => ['F', 'F', 'I']
    | 'ﬄ' => ['F', 'F', 'L']
    | 'ﬅ' => ['S', 'T']
    | 'ﬆ' => ['S', 'T']
    | c => [c]

end PocketScheme.Text
