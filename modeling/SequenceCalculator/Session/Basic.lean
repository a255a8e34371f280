import SequenceCalculator.Evaluation.Program
import SequenceCalculator.Report.Handler
import SequenceCalculator.Session.Location

namespace SequenceCalculator

/-!
Sessions: one program text after the other on one environment.

A session reads a text, evaluates it and keeps the output until somebody takes
it.  An interactive session takes one statement at a time; any other takes whole
programs.  Failures of reading and evaluation become notices for the handler.
-/

/-- A record of what a part of the calculator has done. -/
structure JournalEntry where
  source : Text
  message : Text
deriving DecidableEq

/-- How far down reading and evaluation may go before the runtime gives up. -/
structure Limits where
  /-- How deep the expressions of a text may be nested. -/
  nesting : Nat
  /-- How deep the calls of an evaluation may be nested. -/
  depth : Nat
deriving DecidableEq

/-- The limits that are in force unless others are given. -/
def Limits.standard : Limits := ⟨Grammar.nestingLimit, Evaluation.depthLimit⟩

/-- A session. -/
structure Session where
  handler : Handler
  /-- The name of the file, for reports. -/
  path : Text
  /-- Whether texts are typed statements. -/
  interactive : Bool
  limits : Limits
  /-- The bindings made so far. -/
  environment : Environment
  /-- The outputs that nobody has taken yet, oldest first. -/
  results : List Text
  /-- What has been done so far. -/
  journal : List JournalEntry

namespace Session

/-- The file name of typed statements. -/
def terminalName : Text := "<in>".toList

/-- Adds an entry of a part of the calculator to the journal. -/
def note (session : Session) (source : String) (message : Text) : Session :=
  { session with
    journal := session.journal ++ [⟨("seqcalc." ++ source).toList, message⟩] }

/-- Raises a notice that is still to be made. -/
def raising {α : Type} (session : Session) (draft : Notice.Draft) : Except Raised α :=
  match Notice.ofDraft session.handler.colored draft with
  | .ok notice => .error (.notice notice)
  | .error fault => .error (.fault fault)

/-- Opens a session.  The handler of an interactive session is never fatal, and no
file may take the name of the terminal. -/
def start (handler : Handler) (path : Text) (interactive : Bool)
    (limits : Limits := .standard) : Session × Except Raised Unit :=
  let handler := handler.registerFile path
  let session : Session :=
    { handler := if interactive then { handler with fatal := false } else handler
      path := path
      interactive := interactive
      limits := limits
      environment := []
      results := []
      journal := [] }
  if !interactive && path == terminalName then
    (session, session.raising { template := "'<in>' is a reserved filename".toList })
  else (session, .ok ())

/-- Reads the statements of a text that starts on a given line. -/
def parse (session : Session) (text : Text) (number : Int) :
    Session × Except Raised (List Node) :=
  let parsed :=
    if session.interactive then
      (Grammar.parseStatement session.limits.nesting text).map fun node => [node]
    else Grammar.parseProgram session.limits.nesting text
  match parsed with
  | .success nodes =>
      (session.note "session"
        (s!"parsed {nodes.length} statement(s) from ".toList ++ session.path), .ok nodes)
  | .fault fault => (session, .error (.fault fault))
  | .failure error =>
      let location := Location.ofOffset text error.offset
      let session :=
        { session with
          handler := session.handler.registerLine session.path location.line
            (number + location.index) }
      (session, session.raising (location.draft error.fragment))

/-- Notes which text is being evaluated, in case its evaluation fails. -/
def announce (session : Session) (text : Text) (number : Int) : Session :=
  if session.interactive then
    { session with handler := session.handler.registerLine session.path text number }
  else session

/-- Notes that an evaluation begins. -/
def noteBegin (session : Session) (nodes : List Node) : Session :=
  session.note "evaluator" s!"evaluating {nodes.length} statement(s)".toList

/-- Notes how an evaluation ended. -/
def noteEnd (session : Session) : Outcome Failure Text -> Session
  | .failure failure =>
      session.note "evaluator" ("evaluation failed: ".toList ++ failure.message)
  | _ => session

/-- Takes in the outcome of an evaluation: an output is kept, and a failure is
raised as a notice. -/
def conclude (session : Session) :
    Outcome Failure Text -> Session × Except Raised Text
  | .success output =>
      ({ session with
         handler := session.handler.removeLine session.path
         results := session.results ++ [output] }, .ok output)
  | .failure failure =>
      (session, session.raising
        { template := Template.escape failure.message, diagnosis := false })
  | .fault fault => (session, .error (.fault fault))

/-- Reads and evaluates a text without interruption. -/
def run (session : Session) (text : Text) (number : Int) :
    Session × Except Raised Text :=
  match session.parse text number with
  | (session, .error raised) => (session, .error raised)
  | (session, .ok nodes) =>
      let session := (session.announce text number).noteBegin nodes
      let (environment, outcome) :=
        (Evaluation.program session.limits.depth [] nodes session.environment).complete
      ({ session with environment := environment }.noteEnd outcome).conclude outcome

/-- Lets the handler deal with what escaped from a piece of work.  The work has no
value when something escaped and was settled. -/
def guard {α : Type} (work : Session × Except Raised α) :
    Session × Text × Except Raised (Option α) :=
  match work with
  | (session, .ok value) => (session, [], .ok (some value))
  | (session, .error raised) =>
      let (handler, output, settled) := session.handler.settle raised
      ({ session with handler := handler }, output, settled.map fun _ => none)

/-- Takes the oldest output. -/
def pop (session : Session) : Session × Except Raised Text :=
  match session.results with
  | [] => (session, .error (.fault .noResult))
  | output :: results => ({ session with results := results }, .ok output)

end Session

end SequenceCalculator
