/-
The arguments of the command line, one by one: what each is by its look.

There are two switches, and neither takes a value. A switch is written
by its letter after one dash, where several letters can stand together,
or by its word after two dashes, which can be cut short as long as it
fits one switch only. What follows a word and an equals sign is a value.

What else stands behind letters of switches is read in one of two ways,
and both are in use (`Convention`): all of it may be a value of the last
switch, or the switches before it count and it is left over by itself.

An argument that is no switch may still start with a dash: one that
looks like a negative number or holds a space is taken for an
expression, any other is unknown.
-/
import PocketScheme.Text.Digit

namespace PocketScheme.Command

open Text

-- ============================================================ switches

/-- The switches of the program. -/
inductive Switch where
  /-- Asks for the help text. -/
  | help
  /-- Asks for the whole log. -/
  | verbose
  deriving DecidableEq, Repr

namespace Switch

/-- The letter that stands for a switch after one dash. -/
def letter : Switch → Char
  | help => 'h'
  | verbose => 'v'

/-- The word that stands for a switch after two dashes. -/
def word : Switch → List Char
  | help => "help".toList
  | verbose => "verbose".toList

/-- How a message speaks of a switch. -/
def label : Switch → String
  | help => "-h/--help"
  | verbose => "-v/--verbose"

/-- Every switch, once. -/
def all : List Switch := [help, verbose]

/-- The switch of a letter. -/
def ofLetter? (c : Char) : Option Switch := all.find? fun switch => switch.letter = c

/-- The switches whose words start with a text. -/
def startingWith (text : List Char) : List Switch :=
  all.filter fun switch => text.isPrefixOf switch.word

end Switch

-- =========================================================== arguments

/-- How an argument is read in which something else than letters of
switches stands behind the letter of one. -/
inductive Convention where
  /-- As a whole: it is a value of the last switch. An equals sign directly
  behind the first letter is passed over if anything follows it. -/
  | whole
  /-- Apart: the switches count, and it is left over with a dash in front.
  It is a value only if it starts with a dash, or behind an equals sign. -/
  | apart
  deriving DecidableEq, Repr

/-- What an argument is. -/
inductive Argument where
  /-- One switch or more, and what is left over behind them. -/
  | switches (switches : List Switch) (leftOver : Option (List Char))
  /-- A switch with a value, which it does not take. -/
  | valued (switch : Switch) (value : List Char)
  /-- The start of more than one switch's word. -/
  | ambiguous (text : List Char)
  /-- In the place of an expression. -/
  | expression (text : List Char)
  /-- Like a switch, but none that there is. -/
  | unknown (text : List Char)
  deriving DecidableEq, Repr

/-- Whether a text is a minus sign and digits, with or without a point
before the last of them. A line feed at the end does not count. -/
def looksNegative (text : List Char) : Bool :=
  match text with
  | '-' :: text =>
    let number := if text.getLast? = some '\n' then text.dropLast else text
    match number.dropWhile isDecimalDigit with
    | [] => !number.isEmpty
    | '.' :: fraction => !fraction.isEmpty && fraction.all isDecimalDigit
    | _ => false
  | _ => false

namespace Argument

/-- Switches and a text behind them that starts with the letter of
none. -/
def breakOff (convention : Convention) (before : List Switch) (switch : Switch)
    (text : List Char) : Argument :=
  match convention, text with
  | .whole, value => valued switch value
  | .apart, '=' :: value => valued switch value
  | .apart, '-' :: value => valued switch ('-' :: value)
  | .apart, rest => switches (before ++ [switch]) (some ('-' :: rest))

/-- A switch and the letters of others behind it, up to the first
character that is the letter of none. -/
def cluster (convention : Convention) (before : List Switch) (switch : Switch) :
    List Char → Argument
  | [] => switches (before ++ [switch]) none
  | c :: rest =>
    match Switch.ofLetter? c with
    | some next => cluster convention (before ++ [switch]) next rest
    | none => breakOff convention before switch (c :: rest)

/-- What an argument is that starts with a dash and names no switch. -/
def other (text : List Char) : Argument :=
  if looksNegative text || text.contains ' ' then expression text else unknown text

/-- What an argument is. -/
def ofText (convention : Convention) (text : List Char) : Argument :=
  match text with
  | '-' :: '-' :: name =>
    match Switch.startingWith (name.takeWhile (· != '=')) with
    | [] => other text
    | [switch] =>
      match name.dropWhile (· != '=') with
      | [] => switches [switch] none
      | _ :: value => valued switch value
    | _ => ambiguous text
  | '-' :: c :: rest =>
    match Switch.ofLetter? c with
    | none => other text
    | some switch =>
      match convention, rest with
      | .whole, ['='] => valued switch []
      | .whole, '=' :: letters => cluster .whole [] switch letters
      | convention, letters => cluster convention [] switch letters
  | _ => expression text

/-- Whether an argument stands in the place of an expression. -/
def isExpression : Argument → Bool
  | expression _ => true
  | _ => false

/-- The text that an argument has for the place of the expression. -/
def text? : Argument → Option (List Char)
  | expression text | unknown text => some text
  | switches _ leftOver => leftOver
  | _ => none

/-- Whether an argument holds a switch. -/
def holds (switch : Switch) : Argument → Bool
  | switches all _ => all.contains switch
  | _ => false

end Argument

end PocketScheme.Command
