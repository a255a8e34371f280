import SequenceCalculator.Session.Basic
import SequenceCalculator.Shell.Command

namespace SequenceCalculator

/-!
The shell: a session whose statements are typed line by line.

A line that leaves a bracket open is kept and joined with the next one.  Every
other line is run at once, and its output is printed.  Whatever goes wrong is
reported, and the shell is then ready for the next line.
-/

/-- The shell. -/
structure Shell where
  session : Session
  /-- The lines that are still to be continued. -/
  pending : Text
  /-- How many lines have been typed. -/
  number : Int
  /-- What the shell says before a line is typed. -/
  prompt : Text

namespace Shell

/-- What the shell says before a new statement. -/
def primaryPrompt : Text := "> ".toList

/-- What the shell says while the last line is still to be continued. -/
def secondaryPrompt : Text := ". ".toList

/-- A shell in which nothing has been typed. -/
def new (session : Session) : Shell := ⟨session, [], 0, primaryPrompt⟩

/-- What the shell says first. -/
def introduction : Text :=
  ("seqcalc interpreter :: Python backend\n" ++
    "Type '?' or 'help' for more information.\n").toList

/-- What the shell says when asked for help. -/
def helpText : Text :=
  ("Welcome to the seqcalc interpreter!\n\n" ++
    "seqcalc evaluates arithmetic over numbers and sequences of numbers. Statements \n" ++
    "are 'var NAME = EXPR' (bind), 'out EXPR' (show a value) and 'print \"TEXT\"'. \n" ++
    "Note that '^' binds tightest, then '/', '*', '-' and finally '+'.\n\n" ++
    "Try it out by typing 'var xs = map(\x7b1 .. 5\x7d, x -> x * x)'. " ++
    "This will bind the \n" ++
    "squares of 1 to 5 to the name 'xs'. Next, try typing \n" ++
    "'out reduce(xs, 0, a b -> a + b)'. This will give '55' as the result.\n").toList

/-- The output of a statement, on a line of its own unless there is none. -/
def shown (output : Text) : Text :=
  if output.isEmpty then [] else Handler.line output

/-- Runs a statement and takes its output. -/
def perform (session : Session) (line : Text) (number : Int) :
    Session × Except Raised Text :=
  let session := session.note "shell" (s!"line {number}: ".toList ++ line)
  match session.run line number with
  | (session, .error raised) => (session, .error raised)
  | (session, .ok _) => session.pop

/-- Takes in a line of a statement.  What is printed is the output of a complete
statement or a report of what went wrong with it. -/
def enter (shell : Shell) (line : Text) : Shell × Text × Except Raised Unit :=
  let number := shell.number + 1
  let (line, unfinished) := preprocessLine (shell.pending ++ line)
  if unfinished then
    ({ shell with pending := line ++ [' '], number := number, prompt := secondaryPrompt },
      [], .ok ())
  else
    let idle : Shell :=
      { shell with pending := [], number := number, prompt := primaryPrompt }
    if line.isEmpty then (idle, [], .ok ())
    else
      let (session, report, result) := Session.guard (perform shell.session line number)
      match result with
      | .ok output =>
          ({ idle with session := session }, report ++ shown (output.getD []), .ok ())
      | .error raised => ({ idle with session := session }, report, .error raised)

/-- Takes in a typed line and answers whether the conversation goes on. -/
def obey (shell : Shell) (line : Text) : Shell × Text × Except Raised Bool :=
  match Command.ofLine line with
  | .nothing => (shell, [], .ok true)
  | .help => (shell, helpText, .ok true)
  | .exit => (shell, [], .ok false)
  | .endOfInput => (shell, ['\n'], .ok false)
  | .statement line =>
      let (shell, printed, result) := shell.enter line
      (shell, printed, result.map fun _ => true)

end Shell

end SequenceCalculator
