import SequenceCalculator.Evaluation.Display

namespace SequenceCalculator

/-!
Running programs.

A program is an activity: it works on an environment that others can see
whenever the program is suspended, and it gets that environment back when it is
resumed.  A declaration binds its name only once its expression has a value, so
a program that is given up never leaves a declaration half made.
-/

/-- A computation on a shared environment that may be suspended. -/
inductive Activity (α : Type) where
  /-- The activity has ended and left this environment. -/
  | finished (environment : Environment) (outcome : Outcome Failure α)
  /-- The activity has left this environment and goes on from the one it gets. -/
  | suspended (environment : Environment) (resume : Environment -> Activity α)

/-- How an activity that is watched for a while ends. -/
inductive Ending (α : Type) where
  | finished (outcome : Outcome Failure α)
  | cancelled

/-- What is seen of an activity: how often it was suspended, the environment it
left and how it ended. -/
structure Account (α : Type) where
  suspensions : Nat
  environment : Environment
  ending : Ending α

namespace Activity

variable {α β : Type}

/-- The environment that an activity has left. -/
def environment : Activity α -> Environment
  | .finished environment _ => environment
  | .suspended environment _ => environment

/-- Works through a run on a shared environment and goes on with its value. -/
def follow (environment : Environment) (next : Environment -> α -> Activity β) :
    Trial Failure α -> Activity β
  | .done (.success value) => next environment value
  | .done (.failure reason) => .finished environment (.failure reason)
  | .done (.fault fault) => .finished environment (.fault fault)
  | .paused resume =>
      .suspended environment fun environment => follow environment next (resume ())

/-- Works through a run that leaves the environment alone. -/
def ofTrial (environment : Environment) (trial : Trial Failure α) : Activity α :=
  follow environment (fun environment value => .finished environment (.success value))
    trial

/-- Resumes an activity until it ends, or until the given suspension, at which it
is cancelled. -/
def account (limit : Option Nat) (suspensions : Nat) : Activity α -> Account α
  | .finished environment outcome => ⟨suspensions, environment, .finished outcome⟩
  | .suspended environment resume =>
      if limit = some (suspensions + 1) then ⟨suspensions + 1, environment, .cancelled⟩
      else (resume environment).account limit (suspensions + 1)

/-- The environment and the outcome of an activity that nobody interrupts. -/
def complete : Activity α -> Environment × Outcome Failure α
  | .finished environment outcome => (environment, outcome)
  | .suspended environment resume => (resume environment).complete

end Activity

namespace Evaluation

open Number

/-- How deep evaluations may be nested in programs from outside. -/
def depthLimit : Nat := 2000

/-- What a statement puts out: a text, or a number that was to be printed in the
place of a text. -/
inductive Printed where
  | text (content : Text)
  | number (value : Single)
deriving DecidableEq

/-- The texts of several statements, joined from a given index on.  A number
among them is a fault. -/
def joinFrom (index : Nat) : List Printed -> Except Fault Text
  | [] => .ok []
  | .text content :: rest => (joinFrom (index + 1) rest).map (content ++ ·)
  | .number _ :: _ =>
      .error (.wrongValue
        s!"sequence item {index}: expected str instance, numpy.float32 found".toList)

/-- What a printed literal puts out. -/
def literal : Node -> Except Fault Printed
  | .string content => .ok (.text content)
  | .name text => .ok (.text text)
  | .number value => .ok (.number value)
  | other => .error (.noField (String.ofList other.shapeName) "value")

/-- Runs a statement and goes on with what it puts out. -/
def statement {α : Type} (depth : Nat) (environment : Environment)
    (next : Environment -> Printed -> Activity α) : Node -> Activity α
  | .declare name expression =>
      Activity.follow environment
        (fun environment value =>
          match boundName name with
          | .ok name => next (assign environment name value.toNode) (.text [])
          | .error fault => .finished environment (.fault fault))
        (value depth environment expression)
  | .print content =>
      match literal content with
      | .ok printed => next environment printed
      | .error fault => .finished environment (.fault fault)
  | .out expression =>
      Activity.follow environment (fun environment text => next environment (.text text))
        (display depth environment expression)
  | other => .finished environment (.fault (.notStatement other.shown))

/-- Runs statements in order, after some that have put something out.  Their
output is joined at the end; a failure leaves no output at all. -/
def program (depth : Nat) (printed : List Printed) :
    List Node -> Environment -> Activity Text
  | [], environment => .finished environment (Outcome.ofExcept (joinFrom 0 printed))
  | node :: nodes, environment =>
      statement depth environment
        (fun environment item => program depth (printed ++ [item]) nodes environment) node

end Evaluation

end SequenceCalculator
