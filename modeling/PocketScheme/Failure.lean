/-
The reasons why a text gives no value, and their messages.

A failure keeps what its message is made of: the values found, the form
refused, the place of a token. It is raised where it happens and reaches
the caller unchanged, so equal failures have equal causes, not only
equal messages. `render` is the only place where a message is worded.
-/
import PocketScheme.Position
import PocketScheme.Text.Blank
import PocketScheme.Value.Render

namespace PocketScheme

open Text

/-- Why there is no value. -/
inductive Failure where
  /-- An operation got a number of arguments that it does not take. -/
  | arity (expected : Int) (found : List Value)
  /-- A value is not of the kind that an operation needs. -/
  | mismatch (expected : String) (found : Value)
  /-- A text is no expression; the place is where that shows. -/
  | unreadable (detail : String) (position : Position)
  /-- A form has no rule of evaluation. -/
  | badForm (message : String) (form : Value)
  /-- A name in front of arguments names no operation. -/
  | unknownProcedure (message name : String)
  /-- A name stands for no value. -/
  | unboundVariable (message name : String)
  /-- A failure of no more special kind. -/
  | generic (message : String)
  /-- A division had a zero divisor. -/
  | divisionByZero (operator : String) (arguments : List Value)
  deriving Repr, DecidableEq

namespace Failure

/-- The failure of which nothing is known. -/
def unspecified : Failure := generic "An error has occurred"

/-- The message of a failure. Only the message about a number of
arguments loses the blanks at its end, whether the list of values is
empty or its last text ends in blanks. -/
def render : Failure → List Char
  | arity expected found =>
    stripBack ("Expected ".toList ++ Decimal.render expected ++ " args; found values ".toList
      ++ Value.renderAll found)
  | mismatch expected found =>
    "Invalid type: expected ".toList ++ expected.toList ++ ", found ".toList ++ found.render
  | unreadable detail position =>
    "Parse error at \"lisp\" (line ".toList ++ Decimal.render position.line
      ++ ", column ".toList ++ Decimal.render position.column ++ "): ".toList
      ++ detail.toList
  | badForm message form => message.toList ++ ": ".toList ++ form.render
  | unknownProcedure message name =>
    message.toList ++ ": \"".toList ++ name.toList ++ "\"".toList
  | unboundVariable message name => message.toList ++ ": ".toList ++ name.toList
  | generic message => message.toList
  | divisionByZero operator arguments =>
    "Division by zero in (".toList ++ operator.toList ++ [' '] ++ Value.renderAll arguments
      ++ [')']

/-- The message of a failure, as a string. -/
def text (failure : Failure) : String := .ofList failure.render

/-- Whether a failure is general: of no special kind, or a division by
zero, which is a special case of those. -/
def isGeneric : Failure → Bool
  | generic _ | divisionByZero _ _ => true
  | _ => false

end Failure

end PocketScheme
