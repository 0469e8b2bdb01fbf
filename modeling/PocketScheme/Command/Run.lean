/-
A run of the program: the texts it writes about itself, and what it
leaves behind for its arguments, its setting and its input.
-/
import PocketScheme.Command.Invocation
import PocketScheme.Loop

namespace PocketScheme.Command

open Text

-- ============================================================ the texts

/-- The line that shows how to call the program. -/
def usage : String := "usage: schemelet [-h] [-v] [expr]\n"

/-- The lines of the help text after the first. -/
def helpLines : List String := [
  "",
  "Evaluate a single Scheme-style expression.",
  "",
  "positional arguments:",
  "  expr           expression to evaluate; omit to read lines from stdin",
  "",
  "options:",
  "  -h, --help     show this help message and exit",
  "  -v, --verbose  log debug output to stderr",
  "",
  "Atoms may start with '-': an unrecognized dash argument is taken as the",
  "expression, and '--' forces the next argument to be one (e.g. -- -v)."]

/-- The help text. -/
def helpText : String := usage ++ String.join (helpLines.map (· ++ "\n"))

/-- What is wrong with a command line. -/
def Complaint.render : Complaint → List Char
  | ambiguous text =>
    "ambiguous option: ".toList ++ text ++ " could match --help, --verbose".toList
  | valued switch value =>
    "argument ".toList ++ switch.label.toList ++ ": ignored explicit argument ".toList
      ++ Quoted.encode value
  | leftOver texts => "unrecognized arguments: ".toList ++ [' '].intercalate texts

/-- The message about a command line that is refused. -/
def refusal (complaint : Complaint) : List Char :=
  usage.toList ++ "schemelet: error: ".toList ++ complaint.render ++ ['\n']

-- =============================================================== a run

/-- What a run leaves behind. -/
structure Outcome where
  exitCode : Nat
  output : List Char
  errors : List Char
  deriving DecidableEq, Repr

/-- The outcome of a run that wrote and logged, of which the log shows
from a level on. -/
def Outcome.ofTranscript (level : Log.Level) (transcript : Loop.Transcript) : Outcome :=
  ⟨0, transcript.output, Log.shown level transcript.log⟩

/-- The level from which on the log shows: the verbosity switch shows
all of it, otherwise a setting decides. -/
def showFrom (verbose : Bool) (setting : Option String) : Log.Level :=
  if verbose then .debug else .ofSetting setting

/-- A run with these arguments, read by a convention, this setting of the
level, and this input, which comes from a terminal or not. -/
def runBy (convention : Convention) (arguments : List (List Char)) (setting : Option String)
    (terminal : Bool) (input : List Char) : Outcome :=
  let invocation := Invocation.ofTexts convention arguments
  let level := showFrom invocation.verbose setting
  match invocation.action with
  | .help => ⟨0, helpText.toList, []⟩
  | .refuse complaint => ⟨2, [], refusal complaint⟩
  | .evaluate expression => .ofTranscript level (Loop.reply expression)
  | .loop => .ofTranscript level (Loop.run terminal input)

/-- The convention that is followed if no other is named. -/
def convention : Convention := .whole

/-- A run by that convention. -/
def run (arguments : List (List Char)) (setting : Option String) (terminal : Bool)
    (input : List Char) : Outcome :=
  runBy convention arguments setting terminal input

end PocketScheme.Command
