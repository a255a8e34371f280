import SequenceCalculator.CommandLine.Invocation

namespace SequenceCalculator
namespace Terminal

/-!
The program at a terminal.  Everything that is decided is decided by the runs of
`CommandLine`; here files and typed lines are only read, and texts are printed.
-/

open CommandLine

/-- Prints a text at once. -/
def say (text : Text) : IO Unit := do
  let output <- IO.getStdout
  output.putStr (String.ofList text)
  output.flush

/-- Prints a text for whoever looks after the program. -/
def complain (text : Text) : IO Unit := do
  (<- IO.getStderr).putStr (String.ofList text)

/-- The lines that are typed next; none when the input has ended. -/
def listen : IO (List Text) := do
  let line <- (<- IO.getStdin).getLine
  return Text.lines (Text.unifyLineEnds line.toList)

/-- Whether reports are coloured: only at a terminal, unless the environment
says otherwise. -/
def wantsColor : IO Bool := do
  if (<- IO.getEnv "NO_COLOR").isSome then return false
  if (<- IO.getEnv "FORCE_COLOR").isSome then return true
  if (<- IO.getEnv "TERM") == some "dumb" then return false
  (<- IO.getStdout).isTty

/-- The bytes of a file, if it can be opened. -/
def contents (path : Text) : IO (Option (List Nat)) := do
  try
    let bytes <- IO.FS.readBinFile (String.ofList path)
    return some (bytes.toList.map fun byte => byte.toNat)
  catch _ => return none

/-- Goes on with a conversation in which some lines have been typed already. -/
partial def converse (level : Level) (typed : List Text) (shell : Shell) :
    IO (Session × Except Raised Unit) := do
  say shell.prompt
  let typed <- if typed.isEmpty then listen else pure typed
  let (next, printed, result) := shell.obey (typed.headD Shell.lastLine)
  say printed
  complain (shownJournal level next.session.journal)
  let session := { next.session with journal := [] }
  match result with
  | .ok true => converse level typed.tail { next with session := session }
  | .ok false => return (session, .ok ())
  | .error raised => return (session, .error raised)

/-- Prints what a run comes to, and answers its status. -/
def conclude (transcript : Transcript) : IO UInt32 := do
  say transcript.output
  complain transcript.errors
  match transcript.ending with
  | .ok () => return 0
  | .error (.exit .unstated) => return 0
  | .error (.exit (.number status)) => return status.toNat.toUInt32
  | .error raised =>
      complain (Handler.line (raised.category ++ ": ".toList ++ raised.message))
      return 1

/-- A run of the program. -/
def run (arguments : List Text) : IO UInt32 := do
  let colored <- wantsColor
  match Request.ofArguments arguments with
  | .ok (.calculate ⟨none, level⟩) =>
      say Shell.introduction
      let work <- converse level [] (Shell.new (terminalSession colored))
      conclude (transcript level [] work)
  | .ok (.calculate ⟨some path, _⟩) =>
      let bytes <- contents path
      conclude (invoke ⟨fun _ => bytes, [], colored, .standard⟩ arguments)
  | _ => conclude (invoke ⟨fun _ => none, [], colored, .standard⟩ arguments)

end Terminal
end SequenceCalculator

/-- Runs the calculator. -/
def main (arguments : List String) : IO UInt32 :=
  SequenceCalculator.Terminal.run (arguments.map fun argument => argument.toList)
