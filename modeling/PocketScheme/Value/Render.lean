/-
The text of a value: what the interpreter prints, and what the reader
reads back.

A string stands between double quotes as it is, nothing escaped; the
items of a list are separated by one space; a dotted list has its point
between spaces. The text does not tell every value apart: it is the
inspection text that does.
-/
import PocketScheme.Text.Decimal
import PocketScheme.Value.Basic

namespace PocketScheme.Value

open Text

mutual

/-- The text of a value. -/
def render : Value → List Char
  | atom name => name.toList
  | int n => Decimal.format n
  | str text => '"' :: text.toList ++ ['"']
  | bool true => ['#', 't']
  | bool false => ['#', 'f']
  | list [] => ['(', ')']
  | list (first :: more) => '(' :: (first.render ++ renderMore more ++ [')'])
  | dotted first more tail =>
    '(' :: (first.render ++ renderMore more ++ [' ', '.', ' '] ++ tail.render ++ [')'])

/-- The texts of values, a space in front of each. -/
def renderMore : List Value → List Char
  | [] => []
  | v :: more => ' ' :: v.render ++ renderMore more

end

/-- The texts of values, a space between each two. -/
def renderAll : List Value → List Char
  | [] => []
  | first :: more => first.render ++ renderMore more

/-- The text of a value, as a string. -/
def text (v : Value) : String := .ofList v.render

end PocketScheme.Value
