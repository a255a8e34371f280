import SequenceCalculator.Shell.Basic

namespace SequenceCalculator

/-!
Conversations: a shell prompts for a line, takes it in and prints its answer,
until a line ends the conversation or something escapes.  The end of the input
is itself a command.
-/

namespace Shell

/-- The line that stands for the end of the input. -/
def lastLine : Text := "EOF".toList

/-- A conversation, from the next prompt on. -/
def converse (shell : Shell) : List Text -> Shell × Text × Except Raised Unit
  | [] =>
      let (next, printed, result) := shell.obey lastLine
      (next, shell.prompt ++ printed, result.map fun _ => ())
  | line :: lines =>
      match shell.obey line with
      | (next, printed, .error raised) => (next, shell.prompt ++ printed, .error raised)
      | (next, printed, .ok false) => (next, shell.prompt ++ printed, .ok ())
      | (next, printed, .ok true) =>
          let (last, rest, result) := next.converse lines
          (last, shell.prompt ++ printed ++ rest, result)

end Shell

end SequenceCalculator
