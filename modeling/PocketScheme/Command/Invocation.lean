/-
The command line as a whole: what its arguments together ask for.

Before the separator, a double dash, an argument is what it looks like;
after it, every argument stands in the place of an expression. The first
argument in that place is the expression, and the separator goes with it
if one stands directly before or after the other. All else that is no
switch is left over, and so is what a switch leaves over. With nothing
left over there is an expression or there is none; one text left over may
be the expression itself if there is no other, so that an atom may start
with a dash.

An ambiguous argument is refused before anything else. Then the switches
count in their order: help, or a value given to a switch, ends the
matter, and what is left over is refused last.
-/
import PocketScheme.Command.Argument

namespace PocketScheme.Command

/-- The argument after which every argument is in the place of an
expression. -/
def separator : List Char := ['-', '-']

/-- Why a command line is refused. -/
inductive Complaint where
  | ambiguous (text : List Char)
  | valued (switch : Switch) (value : List Char)
  | leftOver (texts : List (List Char))
  deriving DecidableEq, Repr

/-- What there is to do. -/
inductive Action where
  | help
  | refuse (complaint : Complaint)
  | evaluate (expression : List Char)
  | loop
  deriving DecidableEq, Repr

/-- A command line: the arguments before the separator, and the texts
from the separator on. -/
structure Invocation where
  options : List Argument
  tail : List (List Char)
  deriving DecidableEq, Repr

namespace Invocation

/-- The command line of a list of texts. -/
def ofTexts (convention : Convention) (texts : List (List Char)) : Invocation :=
  ⟨(texts.takeWhile (· != separator)).map (Argument.ofText convention),
    texts.dropWhile (· != separator)⟩

/-- Whether the whole log is asked for. -/
def verbose (invocation : Invocation) : Bool :=
  invocation.options.any (Argument.holds .verbose)

/-- The first ambiguous argument. -/
def ambiguous? (invocation : Invocation) : Option Complaint :=
  invocation.options.findSome? fun
    | .ambiguous text => some (.ambiguous text)
    | _ => none

/-- The first switch that ends the matter. -/
def interruption? (invocation : Invocation) : Option Action :=
  invocation.options.findSome? fun
    | .valued switch value => some (.refuse (.valued switch value))
    | argument => if argument.holds .help then some .help else none

/-- The first argument in the place of an expression, and what is left
over beside it. -/
def expression (invocation : Invocation) : Option (List Char) × List (List Char) :=
  let before := invocation.options.takeWhile fun argument => !argument.isExpression
  match invocation.options.dropWhile fun argument => !argument.isExpression with
  | [] => (invocation.tail[1]?, before.filterMap Argument.text? ++ invocation.tail.drop 2)
  | [first] => (first.text?, before.filterMap Argument.text? ++ invocation.tail.drop 1)
  | first :: after =>
    (first.text?,
      before.filterMap Argument.text? ++ after.filterMap Argument.text? ++ invocation.tail)

/-- What a command line with no interruption comes to. -/
def request (invocation : Invocation) : Action :=
  match invocation.expression with
  | (none, []) => .loop
  | (some text, []) => .evaluate text
  | (none, [text]) => .evaluate text
  | (_, leftOver) => .refuse (.leftOver leftOver)

/-- What a command line comes to. -/
def action (invocation : Invocation) : Action :=
  match invocation.ambiguous? with
  | some complaint => .refuse complaint
  | none => invocation.interruption?.getD invocation.request

end Invocation

end PocketScheme.Command
