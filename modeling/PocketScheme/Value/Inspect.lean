/-
The inspection text of a value: its constructors spelled out, its
strings quoted with everything invisible escaped, so that different
values have different texts.
-/
import PocketScheme.Text.Decimal
import PocketScheme.Text.Quoted
import PocketScheme.Value.Basic

namespace PocketScheme.Value

open Text

mutual

/-- The inspection text of a value. -/
def inspect : Value → List Char
  | atom name => "Atom(".toList ++ Quoted.encode name.toList ++ [')']
  | int n => "Integer(".toList ++ Decimal.format n ++ [')']
  | str text => "String(".toList ++ Quoted.encode text.toList ++ [')']
  | bool true => "Boolean(True)".toList
  | bool false => "Boolean(False)".toList
  | list [] => "LispList([])".toList
  | list (first :: more) =>
    "LispList([".toList ++ first.inspect ++ inspectMore more ++ [']', ')']
  | dotted first more tail =>
    "DottedPair([".toList ++ first.inspect ++ inspectMore more ++ [']', ',', ' ']
      ++ tail.inspect ++ [')']

/-- The inspection texts of values, a comma and a space in front of
each. -/
def inspectMore : List Value → List Char
  | [] => []
  | v :: more => ',' :: ' ' :: v.inspect ++ inspectMore more

end

end PocketScheme.Value
