import SequenceCalculator.CommandLine.Request
import SequenceCalculator.CommandLine.Usage
import SequenceCalculator.Shell.Conversation
import SequenceCalculator.Text.Lines

namespace SequenceCalculator
namespace CommandLine

/-!
Whole runs of the program.

A run is given its arguments, its files and everything that is typed, and comes
to what it prints and how it ends.  A file is run as a whole: its output is
printed when everything in it has succeeded, and otherwise only the report of
what went wrong.
-/

/-- What a run finds around itself. -/
structure Surroundings where
  /-- The bytes of the files that can be opened. -/
  files : Text -> Option (List Nat)
  /-- Everything that is typed. -/
  input : Text
  /-- Whether reports are coloured. -/
  colored : Bool
  limits : Limits := .standard

/-- What a run comes to. -/
structure Transcript where
  /-- What is printed. -/
  output : Text
  /-- What is printed for whoever looks after the program. -/
  errors : Text
  /-- How the run ends: well, or with something raised. -/
  ending : Except Raised Unit

/-- The journal as it is shown at a level. -/
def shownJournal (level : Level) (journal : List JournalEntry) : Text :=
  if level = .debug then
    journal.flatMap fun entry =>
      Handler.line ("DEBUG:".toList ++ entry.source ++ [':'] ++ entry.message)
  else []

/-- The text of a file.  A name with a zero character is a fault, and so is a
file that holds no text. -/
def readFile (surroundings : Surroundings) (session : Session) : Except Raised Text :=
  if session.path.contains '\x00' then .error (.fault .zeroInPath)
  else
    match surroundings.files session.path with
    | none =>
        session.raising
          { template := "'\x7b\x7d' could not be opened".toList
            subjects := [session.path]
            diagnosis := false }
    | some bytes =>
        match Text.decode bytes with
        | .ok text => .ok text.unifyLineEnds
        | .error place => .error (.fault (.undecodable place))

/-- Runs a file in a session. -/
def runFile (surroundings : Surroundings) (session : Session) :
    Session × Except Raised Unit :=
  match readFile surroundings session with
  | .error raised => (session, .error raised)
  | .ok text =>
      match session.run text 1 with
      | (session, .error raised) => (session, .error raised)
      | (session, .ok _) => (session, .ok ())

/-- The transcript of a session after some work, about which the handler has the
last word. -/
def transcript (level : Level) (printed : Text) (work : Session × Except Raised Unit) :
    Transcript :=
  let (session, report, result) := Session.guard work
  { output := printed ++ report
    errors := shownJournal level session.journal
    ending := result.map fun _ => () }

/-- A run of a file. -/
def calculateFile (surroundings : Surroundings) (level : Level) (path : Text) : Transcript :=
  let handler := Handler.new true surroundings.colored
  match Session.start handler path false surroundings.limits with
  | (session, .error raised) => transcript level [] (session, .error raised)
  | (session, .ok ()) =>
      match runFile surroundings session with
      | (session, .error raised) => transcript level [] (session, .error raised)
      | (session, .ok ()) =>
          transcript level (session.results.flatMap Handler.line) (session, .ok ())

/-- The session of a conversation. -/
def terminalSession (colored : Bool) (limits : Limits := .standard) : Session :=
  (Session.start (Handler.new true colored) Session.terminalName true limits).1

/-- A run of typed statements. -/
def calculateInput (surroundings : Surroundings) (level : Level) : Transcript :=
  let shell := Shell.new (terminalSession surroundings.colored surroundings.limits)
  let (shell, printed, result) :=
    shell.converse surroundings.input.unifyLineEnds.lines
  transcript level (Shell.introduction ++ printed) (shell.session, result)

/-- A run of the program. -/
def invoke (surroundings : Surroundings) (arguments : List Text) : Transcript :=
  match Request.ofArguments arguments with
  | .error misuse => ⟨[], Usage.complaint misuse, .error (.exit (.number 2))⟩
  | .ok .help => ⟨Usage.description, [], .error (.exit (.number 0))⟩
  | .ok (.calculate settings) =>
      match settings.file with
      | some path => calculateFile surroundings settings.level path
      | none => calculateInput surroundings settings.level

end CommandLine
end SequenceCalculator
