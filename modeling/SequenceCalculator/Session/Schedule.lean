import SequenceCalculator.Session.World

namespace SequenceCalculator

/-!
First come, first served: turns are taken in the order in which callers and
evaluations were woken.

One observer starts callers, lets time pass and waits for conclusions.  Its own
calls are callers whose first turn is taken at once.
-/

/-- An entry of the queue. -/
inductive Turn where
  /-- Somebody of the session is woken. -/
  | wake (wake : Wake)
  /-- The observer is told that the caller it waits for has ended, and is woken
  after everybody who is woken before. -/
  | notice
  /-- The observer is woken. -/
  | observer
deriving DecidableEq

/-- A session with its callers and the queue of turns. -/
structure Schedule where
  world : World
  queue : List Turn
  /-- The caller for whose end the observer waits. -/
  watched : Option Nat

namespace Schedule

/-- A session that nobody calls yet. -/
def new (session : Session) : Schedule := ⟨World.new session, [], none⟩

/-- Appends turns to the queue. -/
def enqueue (schedule : Schedule) (turns : List Turn) : Schedule :=
  { schedule with queue := schedule.queue ++ turns }

/-- Tells the observer when the caller it waits for has ended. -/
def notify (schedule : Schedule) : Schedule :=
  match schedule.watched with
  | none => schedule
  | some caller =>
      if (schedule.world.conclusion? caller).isSome then
        { schedule with watched := none }.enqueue [.notice]
      else schedule

/-- Lets a caller or an evaluation take its turn. -/
def apply (schedule : Schedule) : Wake -> Schedule
  | .caller caller =>
      let (world, wakes) := schedule.world.callerTurn caller
      ({ schedule with world := world }.enqueue (wakes.map .wake)).notify
  | .evaluation index =>
      let (world, wakes) := schedule.world.evaluationTurn index
      { schedule with world := world }.enqueue (wakes.map .wake)
  | .stopper caller => schedule.enqueue [.wake (.caller caller)]

/-- Takes turns until the observer's comes, at most the given number. -/
def untilObserver : (bound : Nat) -> Schedule -> Schedule
  | 0, schedule => schedule
  | bound + 1, schedule =>
      match schedule.queue with
      | [] => schedule
      | .observer :: queue => { schedule with queue := queue }
      | .notice :: queue =>
          untilObserver bound ({ schedule with queue := queue }.enqueue [.observer])
      | .wake wake :: queue =>
          untilObserver bound ({ schedule with queue := queue }.apply wake)

/-- Takes turns until a caller's work has ended, at most the given number. -/
def untilConcluded (caller : Nat) : (bound : Nat) -> Schedule -> Schedule
  | 0, schedule => schedule
  | bound + 1, schedule =>
      if (schedule.world.conclusion? caller).isSome then schedule
      else
        match schedule.queue with
        | .wake wake :: queue =>
            untilConcluded caller bound ({ schedule with queue := queue }.apply wake)
        | _ => schedule

/-- Starts a caller, which takes its first turn when the queue gets there. -/
def start (schedule : Schedule) (text : Text) (number : Int) : Schedule × Nat :=
  let (world, caller) := schedule.world.addCaller (.submitting text number)
  ({ schedule with world := world }.enqueue [.wake (.caller caller)], caller)

/-- Lets everybody in the queue take a turn, a number of times. -/
def tick (bound : Nat) : (count : Nat) -> Schedule -> Schedule
  | 0, schedule => schedule
  | count + 1, schedule => tick bound count (untilObserver bound (schedule.enqueue [.observer]))

/-- Waits until a caller's work has ended. -/
def wait (bound : Nat) (schedule : Schedule) (caller : Nat) : Schedule :=
  untilObserver bound { schedule with watched := some caller }.notify

/-- Works through a call of the observer. -/
def call (bound : Nat) (schedule : Schedule) (stage : Stage) : Schedule × Option Conclusion :=
  let (world, caller) := schedule.world.addCaller stage
  let schedule :=
    untilConcluded caller bound ({ schedule with world := world }.apply (.caller caller))
  (schedule, schedule.world.conclusion? caller)

end Schedule

end SequenceCalculator
