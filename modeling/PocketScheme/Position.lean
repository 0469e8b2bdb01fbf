/-
Places in a text, by line and column.

Both count from one; a column counts code points. The two numbers are
integers so that a diagnostic can be made for any place, also one that
no text has. Only the line feed ends a line.
-/

namespace PocketScheme

/-- A place in a text. -/
structure Position where
  line : Int := 1
  column : Int := 1
  deriving DecidableEq, Repr, Inhabited

namespace Position

/-- The place after one more character. -/
def advance (p : Position) (c : Char) : Position :=
  if c = '\n' then ⟨p.line + 1, 1⟩ else ⟨p.line, p.column + 1⟩

/-- The place after a stretch of text. -/
def after (p : Position) (text : List Char) : Position := text.foldl advance p

@[simp] theorem after_nil (p : Position) : p.after [] = p := rfl

@[simp] theorem after_cons (p : Position) (c : Char) (text : List Char) :
    p.after (c :: text) = (p.advance c).after text := rfl

/-- Two stretches of text are passed one after the other. -/
theorem after_append (p : Position) (s t : List Char) :
    p.after (s ++ t) = (p.after s).after t := List.foldl_append

end Position

end PocketScheme
