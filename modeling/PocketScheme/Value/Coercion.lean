/-
Coercions: what number, text or truth value an operation takes a value
for.

A number may be written as one: a string that starts with a number
counts as that number, and a list of one item as what the item counts
as, however deep. A text may be made from an integer or a boolean. A
truth value is only a boolean. A value that is refused is named in the
failure; of lists inside lists it is the innermost value that is named.
-/
import PocketScheme.Failure

namespace PocketScheme.Value

/-- The number that a value counts as. -/
def asNumber : Value → Except Failure Int
  | int n => .ok n
  | str text =>
    match Text.Decimal.leading? text.toList with
    | some n => .ok n
    | none => .error (.mismatch "number" (str text))
  | list [item] => item.asNumber
  | v => .error (.mismatch "number" v)

/-- The text that a value counts as. -/
def asText : Value → Except Failure String
  | str text => .ok text
  | int n => .ok (int n).text
  | bool b => .ok (bool b).text
  | v => .error (.mismatch "string" v)

/-- The truth value that a value counts as. -/
def asTruth : Value → Except Failure Bool
  | bool b => .ok b
  | v => .error (.mismatch "boolean" v)

end PocketScheme.Value
