import SequenceCalculator.Session.Basic

namespace SequenceCalculator

/-!
Concurrent callers of one session.

Any number of callers may submit texts to a session, or ask it to cancel what it
is doing.  At most one evaluation is wanted at a time: a new submission first
has the evaluation in flight cancelled, waits until it has stopped, and only then
starts its own.

Callers and evaluations take turns.  A turn runs up to the next point at which
the caller or evaluation has to wait.  The functions here are single turns; the
order of the turns is left to a scheduler.  Each turn also answers who is woken
by it, in order.
-/

/-- Somebody who waits for an evaluation to end. -/
inductive Watcher where
  /-- The caller that submitted the text and wants its outcome. -/
  | owner (caller : Nat)
  /-- A caller that waits until the evaluation has stopped. -/
  | stopper (caller : Nat)
deriving DecidableEq

/-- How far an evaluation has got. -/
inductive Progress where
  /-- It has not had a turn yet. -/
  | created (nodes : List Node)
  /-- It is suspended and goes on from the environment it gets. -/
  | suspended (resume : Environment -> Activity Text)
  /-- It has ended with an outcome. -/
  | finished (outcome : Outcome Failure Text)
  /-- It was cancelled. -/
  | cancelled

/-- An evaluation. -/
structure Evaluating where
  progress : Progress
  /-- Whether it is cancelled at its next turn. -/
  unwanted : Bool
  /-- Who waits for its end, in order of arrival. -/
  watchers : List Watcher

/-- Whether an evaluation has ended. -/
def Evaluating.isDone (evaluating : Evaluating) : Bool :=
  match evaluating.progress with
  | .finished _ => true
  | .cancelled => true
  | _ => false

/-- A text that has been read and is to be evaluated. -/
structure Submission where
  nodes : List Node
  text : Text
  number : Int

/-- How a caller's work ended. -/
inductive Conclusion where
  /-- The text was evaluated and has this output. -/
  | output (text : Text)
  /-- Whether there was an evaluation to cancel. -/
  | stopped (running : Bool)
  /-- The evaluation was cancelled by another caller. -/
  | cancelled
  /-- Something was raised. -/
  | raised (raised : Raised)
deriving DecidableEq

/-- What a caller is doing. -/
inductive Stage where
  /-- It has a text to submit and has not had a turn yet. -/
  | submitting (text : Text) (number : Int)
  /-- It is going to have the evaluation in flight cancelled. -/
  | cancelling
  /-- It waits until an evaluation has stopped, and then submits its own text if
  it has one. -/
  | stopping (evaluation : Nat) (submission : Option Submission)
  /-- It waits for the outcome of its own evaluation. -/
  | awaiting (evaluation : Nat)
  /-- Its work has ended. -/
  | concluded (conclusion : Conclusion)

/-- Somebody who is woken. -/
inductive Wake where
  /-- A caller takes a turn. -/
  | caller (index : Nat)
  /-- An evaluation takes a turn. -/
  | evaluation (index : Nat)
  /-- A caller that waited for an evaluation to stop is told so, and takes its
  turn after everybody who is woken before. -/
  | stopper (caller : Nat)
deriving DecidableEq

/-- A session with its callers and all evaluations ever created, in order. -/
structure World where
  session : Session
  evaluations : List Evaluating
  /-- The evaluation created last, unless it is known to have ended. -/
  current : Option Nat
  callers : List Stage
  /-- What has been printed. -/
  printed : Text

namespace World

/-- A session that nobody calls yet. -/
def new (session : Session) : World := ⟨session, [], none, [], []⟩

/-- Changes an evaluation. -/
def changeEvaluation (world : World) (index : Nat) (change : Evaluating -> Evaluating) :
    World :=
  { world with evaluations := world.evaluations.modify index change }

/-- Changes what a caller is doing. -/
def setStage (world : World) (caller : Nat) (stage : Stage) : World :=
  { world with callers := world.callers.set caller stage }

/-- Ends the work of a caller. -/
def concludeCaller (world : World) (caller : Nat) (conclusion : Conclusion) : World :=
  world.setStage caller (.concluded conclusion)

/-- The evaluation in flight: the current one, unless it is done. -/
def inFlight (world : World) : Option Nat :=
  match world.current with
  | none => none
  | some index =>
      match world.evaluations[index]? with
      | some evaluating => if evaluating.isDone then none else some index
      | none => none

/-- Has an evaluation cancelled and waits until it has stopped. -/
def stop (world : World) (caller evaluation : Nat) (submission : Option Submission) :
    World :=
  (world.changeEvaluation evaluation fun evaluating =>
    { evaluating with
      unwanted := true
      watchers := evaluating.watchers ++ [.stopper caller] }).setStage caller
    (.stopping evaluation submission)

/-- Creates the evaluation of a submission. -/
def create (world : World) (caller : Nat) (submission : Submission) :
    World × List Wake :=
  let index := world.evaluations.length
  let evaluating : Evaluating :=
    { progress := .created submission.nodes, unwanted := false, watchers := [.owner caller] }
  let world :=
    { world with
      session := world.session.announce submission.text submission.number
      evaluations := world.evaluations ++ [evaluating]
      current := some index }
  (world.setStage caller (.awaiting index), [.evaluation index])

/-- Goes on with a submission: the evaluation in flight is stopped first. -/
def proceed (world : World) (caller : Nat) (submission : Submission) :
    World × List Wake :=
  match world.inFlight with
  | some evaluation => (world.stop caller evaluation (some submission), [])
  | none => world.create caller submission

/-- Forgets an evaluation that is known to have ended. -/
def forget (world : World) (evaluation : Nat) : World :=
  if world.current = some evaluation then { world with current := none } else world

/-- Reports that an evaluation was cancelled. -/
def reportCancelled (world : World) : World × Except Raised Unit :=
  let session := world.session.note "session"
    ("cancelled unfinished evaluation in ".toList ++ world.session.path)
  let (output, result) := session.handler.warnDraft
    { template := "cancelled unfinished evaluation".toList, diagnosis := false }
  ({ world with session := session, printed := world.printed ++ output }, result)

/-- Takes in the end of a caller's own evaluation. -/
def receive (world : World) (caller evaluation : Nat) : Progress -> World
  | .cancelled => world.concludeCaller caller .cancelled
  | .finished (.fault fault) => world.concludeCaller caller (.raised (.fault fault))
  | .finished outcome =>
      let world := world.forget evaluation
      let (session, result) := world.session.conclude outcome
      { world with session := session }.concludeCaller caller
        (match result with
         | .ok output => .output output
         | .error raised => .raised raised)
  | _ => world

/-- One turn of a caller.  A caller that waits for an evaluation does nothing
until that has ended. -/
def callerTurn (world : World) (caller : Nat) : World × List Wake :=
  match world.callers[caller]? with
  | some (.submitting text number) =>
      let (session, result) := world.session.parse text number
      let world := { world with session := session }
      match result with
      | .error raised => (world.concludeCaller caller (.raised raised), [])
      | .ok nodes => world.proceed caller ⟨nodes, text, number⟩
  | some .cancelling =>
      match world.inFlight with
      | some evaluation => (world.stop caller evaluation none, [])
      | none => (world.concludeCaller caller (.stopped false), [])
  | some (.stopping evaluation submission) =>
      match world.evaluations[evaluation]? with
      | some evaluating =>
          if evaluating.isDone then
            match (world.forget evaluation).reportCancelled with
            | (world, .error raised) =>
                (world.concludeCaller caller (.raised raised), [])
            | (world, .ok ()) =>
                match submission with
                | some submission => world.proceed caller submission
                | none => (world.concludeCaller caller (.stopped true), [])
          else (world, [])
      | none => (world, [])
  | some (.awaiting evaluation) =>
      match world.evaluations[evaluation]? with
      | some evaluating => (world.receive caller evaluation evaluating.progress, [])
      | none => (world, [])
  | _ => (world, [])

/-- Who is woken by the end of an evaluation. -/
def wakes (watchers : List Watcher) : List Wake :=
  watchers.map fun watcher =>
    match watcher with
    | .owner caller => .caller caller
    | .stopper caller => .stopper caller

/-- Takes in how far an evaluation has got in its turn. -/
def advance (world : World) (index : Nat) (watchers : List Watcher) :
    Activity Text -> World × List Wake
  | .suspended environment resume =>
      ({ world with session := { world.session with environment := environment } }
        |>.changeEvaluation index fun evaluating =>
            { evaluating with progress := .suspended resume },
        [.evaluation index])
  | .finished environment outcome =>
      let session := { world.session with environment := environment }.noteEnd outcome
      ({ world with session := session }
        |>.changeEvaluation index fun evaluating =>
            { evaluating with progress := .finished outcome },
        wakes watchers)

/-- One turn of an evaluation.  An unwanted evaluation is cancelled at its turn. -/
def evaluationTurn (world : World) (index : Nat) : World × List Wake :=
  match world.evaluations[index]? with
  | none => (world, [])
  | some evaluating =>
      if evaluating.isDone then (world, [])
      else if evaluating.unwanted then
        (world.changeEvaluation index fun evaluating =>
          { evaluating with progress := .cancelled }, wakes evaluating.watchers)
      else
        match evaluating.progress with
        | .created nodes =>
            let world := { world with session := world.session.noteBegin nodes }
            world.advance index evaluating.watchers
              (Evaluation.program world.session.limits.depth [] nodes world.session.environment)
        | .suspended resume =>
            world.advance index evaluating.watchers (resume world.session.environment)
        | _ => (world, [])

/-- A new caller.  It has not had a turn yet. -/
def addCaller (world : World) (stage : Stage) : World × Nat :=
  ({ world with callers := world.callers ++ [stage] }, world.callers.length)

/-- How the work of a caller ended, if it has. -/
def conclusion? (world : World) (caller : Nat) : Option Conclusion :=
  match world.callers[caller]? with
  | some (.concluded conclusion) => some conclusion
  | _ => none

end World

end SequenceCalculator
