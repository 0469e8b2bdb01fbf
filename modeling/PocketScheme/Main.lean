/-
The program: it reads its arguments, the setting of the log level and
its input, and writes what the library answers. Lines are answered one
at a time, so that a terminal gets its prompt and its answers in turn.
-/
import PocketScheme.Command.Run

namespace PocketScheme.Main

/-- The environment variable that sets the log level. -/
def levelVariable : String := "SCHEMELET_LOG_LEVEL"

/-- Writes a transcript: the output, and the part of the log that
shows. -/
def write (level : Log.Level) (transcript : Loop.Transcript) : IO Unit := do
  let output ← IO.getStdout
  output.putStr (.ofList transcript.output)
  output.flush
  IO.eprint (String.ofList (Log.shown level transcript.log))

/-- Asks for lines and answers them until the input ends. -/
partial def loop (level : Log.Level) (terminal : Bool) (input : IO.FS.Stream) : IO Unit := do
  write level (Loop.ask terminal)
  let line ← input.getLine
  unless line.isEmpty do
    write level (Loop.replyToLine line.toList)
    loop level terminal input

end PocketScheme.Main

open PocketScheme in
/-- Runs the command line. -/
def main (arguments : List String) : IO UInt32 := do
  let invocation := Command.Invocation.ofTexts Command.convention
    (arguments.map String.toList)
  let level := Command.showFrom invocation.verbose (← IO.getEnv Main.levelVariable)
  match invocation.action with
  | .help =>
    IO.print Command.helpText
    return 0
  | .refuse complaint =>
    IO.eprint (String.ofList (Command.refusal complaint))
    return 2
  | .evaluate expression =>
    Main.write level (Loop.reply expression)
    return 0
  | .loop =>
    let input ← IO.getStdin
    Main.loop level (← input.isTty) input
    return 0
