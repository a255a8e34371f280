import SequenceCalculator.Outcome

namespace SequenceCalculator

/-!
Runs: computations that pause.

An evaluation hands over control at certain points, so that other work can go
on in between and the evaluation can be given up.  A run is such a computation
as a value: it is either done or paused with the rest of the work still to do.
-/

/-- A computation that may pause a number of times before it is done. -/
inductive Run (α : Type) where
  | done (value : α)
  | paused (resume : Unit -> Run α)

namespace Run

variable {α β : Type}

/-- Goes on with the value of a run. -/
def bind : Run α -> (α -> Run β) -> Run β
  | .done value, next => next value
  | .paused resume, next => .paused fun moment => (resume moment).bind next

/-- A single pause. -/
def pause : Run Unit := .paused fun _ => .done ()

/-- The value of a run that is resumed after every pause. -/
def value : Run α -> α
  | .done result => result
  | .paused resume => (resume ()).value

/-- How often a run pauses. -/
def pauses : Run α -> Nat
  | .done _ => 0
  | .paused resume => (resume ()).pauses + 1

end Run

/-- A run that may fail or end with a fault. -/
abbrev Trial (ε α : Type) := Run (Outcome ε α)

namespace Trial

variable {ε α β : Type}

/-- A finished run with a value. -/
def succeed (value : α) : Trial ε α := .done (.success value)

/-- A finished run that failed. -/
def fail (reason : ε) : Trial ε α := .done (.failure reason)

/-- A finished run that ended with a fault. -/
def stop (fault : Fault) : Trial ε α := .done (.fault fault)

/-- A finished run with a given outcome. -/
def ofOutcome (outcome : Outcome ε α) : Trial ε α := .done outcome

/-- Goes on with a successful value. -/
def andThen (trial : Trial ε α) (next : α -> Trial ε β) : Trial ε β :=
  Run.bind trial fun outcome =>
    match outcome with
    | .success value => next value
    | .failure reason => fail reason
    | .fault fault => stop fault

/-- Changes a successful value. -/
def map (trial : Trial ε α) (change : α -> β) : Trial ε β :=
  trial.andThen fun value => succeed (change value)

/-- Pauses before a run. -/
def afterPause (next : Unit -> Trial ε α) : Trial ε α :=
  Run.bind Run.pause next

/-- Runs a step on every item in order, up to the first that has no value.  The
values found so far are given in reverse order. -/
def traverseFrom (step : α -> Trial ε β) (found : List β) :
    List α -> Trial ε (List β)
  | [] => succeed found.reverse
  | item :: items =>
      (step item).andThen fun value => traverseFrom step (value :: found) items

/-- Runs a step on every item in order, up to the first that has no value. -/
def traverse (step : α -> Trial ε β) (items : List α) : Trial ε (List β) :=
  traverseFrom step [] items

end Trial

end SequenceCalculator
