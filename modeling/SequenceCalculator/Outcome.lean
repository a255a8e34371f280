import SequenceCalculator.Fault

namespace SequenceCalculator

/-!
Outcomes of parsing and evaluation: a value, a failure that is itself an
ordinary value, or a fault that stops the run.
-/

/-- The outcome of a computation. -/
inductive Outcome (ε α : Type) where
  | success (value : α)
  | failure (reason : ε)
  | fault (fault : Fault)
deriving DecidableEq

namespace Outcome

variable {ε α β : Type}

/-- Changes a successful value. -/
def map (change : α -> β) : Outcome ε α -> Outcome ε β
  | .success value => .success (change value)
  | .failure reason => .failure reason
  | .fault cause => .fault cause

/-- Goes on with a successful value. -/
def bind (outcome : Outcome ε α) (next : α -> Outcome ε β) : Outcome ε β :=
  match outcome with
  | .success value => next value
  | .failure reason => .failure reason
  | .fault cause => .fault cause

instance : Monad (Outcome ε) where
  pure := .success
  bind := bind

/-- Whether there is a value. -/
def isSuccess : Outcome ε α -> Bool
  | .success _ => true
  | _ => false

/-- A conversion that succeeds or ends the run. -/
def ofExcept : Except Fault α -> Outcome ε α
  | .ok value => .success value
  | .error cause => .fault cause

/-- The values of a list of outcomes, or the first outcome that is none. -/
def sequence : List (Outcome ε α) -> Outcome ε (List α)
  | [] => .success []
  | outcome :: outcomes =>
      outcome.bind fun value => (sequence outcomes).map (value :: ·)

/-- The values of a step at every item in order, up to the first that has none. -/
def traverse (step : α -> Outcome ε β) : List α -> Outcome ε (List β)
  | [] => .success []
  | item :: items =>
      (step item).bind fun value => (traverse step items).map (value :: ·)

/-- How many items a traversal looks at: all up to the first without a value. -/
def looked (step : α -> Outcome ε β) : List α -> Nat
  | [] => 0
  | item :: items => if (step item).isSuccess then looked step items + 1 else 1

end Outcome

end SequenceCalculator
