import SequenceCalculator.Proofs.Evaluation.Statements
import SequenceCalculator.Session.World

namespace SequenceCalculator

/-!
# The chronicle of a session

Callers and evaluations take their turns in any order, and new callers may come
at any time.  A list of moves is one such order; nothing is assumed about it.  In
particular it may give a turn to somebody who still waits, who then does
nothing, and it may give turns that a fair queue would not give.

A world forgets where an evaluation came from.  The chronicle adds what the
statements about a session's history are about: which calls were made, and for
every evaluation ever created who asked for it, its statements, the bindings at
the time it was created and how many turns it has had.  The chronicle only
watches; the world in it is the one that the moves lead to.
-/

/-- A call of a session. -/
inductive Call where
  /-- A text is submitted that starts on a line. -/
  | submit (text : Text) (number : Int)
  /-- The evaluation in flight is to be cancelled. -/
  | cancel
deriving DecidableEq

/-- What the caller does first. -/
def Call.stage : Call -> Stage
  | .submit text number => .submitting text number
  | .cancel => .cancelling

/-- What happens next in a session. -/
inductive Move where
  /-- Somebody calls. -/
  | call (call : Call)
  /-- A caller takes a turn. -/
  | caller (index : Nat)
  /-- An evaluation takes a turn. -/
  | evaluation (index : Nat)
deriving DecidableEq

namespace World

/-- The world after a move. -/
def move (world : World) : Move -> World
  | .call call => (world.addCaller call.stage).1
  | .caller index => (world.callerTurn index).1
  | .evaluation index => (world.evaluationTurn index).1

/-- Whether an evaluation goes on with its program at its next turn. -/
def goesOn (world : World) (index : Nat) : Bool :=
  match world.evaluations[index]? with
  | some evaluating => !evaluating.isDone && !evaluating.unwanted
  | none => false

end World

/-- What is remembered about an evaluation. -/
structure Record where
  /-- The caller that submitted its text. -/
  caller : Nat
  /-- Its statements. -/
  nodes : List Node
  /-- The bindings of the session when it was created. -/
  start : Environment
  /-- How many turns it has had, the one at which it is cancelled apart. -/
  turns : Nat

namespace Record

/-- The program of the evaluation, run alone from the bindings at its creation. -/
def activity (record : Record) (depth : Nat) : Activity Text :=
  Evaluation.program depth [] record.nodes record.start

/-- The bindings that the program has made when it is run alone for as many
turns. -/
def left (record : Record) (depth : Nat) : Environment :=
  match record.turns with
  | 0 => record.start
  | turn + 1 => ((record.activity depth).after turn).environment

/-- The evaluation has had one more turn. -/
def advance (record : Record) : Record :=
  { record with turns := record.turns + 1 }

/-- How far an evaluation has got is how far its program gets alone in as many
turns. -/
def Follows (record : Record) (depth : Nat) : Progress -> Prop
  | .created nodes => record.turns = 0 ∧ nodes = record.nodes
  | .suspended resume =>
      ∃ turn environment, record.turns = turn + 1 ∧
        (record.activity depth).after turn = .suspended environment resume
  | .finished outcome =>
      ∃ turn environment, record.turns = turn + 1 ∧
        (record.activity depth).after turn = .finished environment outcome
  | .cancelled =>
      record.turns = 0 ∨ ∃ turn environment resume, record.turns = turn + 1 ∧
        (record.activity depth).after turn = .suspended environment resume

/-- Evaluations that were created one after the other, each from the bindings the
one before has left. -/
def Linked (depth : Nat) (environment : Environment) : List Record -> Environment -> Prop
  | [], last => environment = last
  | record :: records, last =>
      record.start = environment ∧ Linked depth (record.left depth) records last

theorem linked_append {depth : Nat} {environment last : Environment} {records : List Record}
    {record : Record} :
    Linked depth environment (records ++ [record]) last ↔
      Linked depth environment records record.start ∧ record.left depth = last := by
  induction records generalizing environment with
  | nil => simp only [List.nil_append, Linked, eq_comm]
  | cons first rest inductionHypothesis =>
      simp only [List.cons_append, Linked, inductionHypothesis, and_assoc]

end Record

/-- A world and what is remembered of its history. -/
structure Chronicle where
  world : World
  /-- The calls, one for each caller. -/
  calls : List Call
  /-- One record for each evaluation, in the order of their creation. -/
  records : List Record

namespace Chronicle

/-- The records after a turn of a caller: one more if it created an evaluation. -/
def recordsAfter (chronicle : Chronicle) (caller : Nat) (world : World) : List Record :=
  match world.evaluations[chronicle.world.evaluations.length]? with
  | some ⟨.created nodes, _, _⟩ =>
      chronicle.records ++ [⟨caller, nodes, chronicle.world.session.environment, 0⟩]
  | _ => chronicle.records

/-- The chronicle after a move. -/
def move (chronicle : Chronicle) (move : Move) : Chronicle :=
  { world := chronicle.world.move move
    calls :=
      match move with
      | .call call => chronicle.calls ++ [call]
      | _ => chronicle.calls
    records :=
      match move with
      | .call _ => chronicle.records
      | .caller caller => chronicle.recordsAfter caller (chronicle.world.move (.caller caller))
      | .evaluation index =>
          if chronicle.world.goesOn index then chronicle.records.modify index Record.advance
          else chronicle.records }

/-- The chronicle of a session that starts with no bindings. -/
def new (handler : Handler) (path : Text) (interactive : Bool) (limits : Limits) : Chronicle :=
  ⟨World.new (Session.start handler path interactive limits).1, [], []⟩

/-- The chronicle after several moves. -/
def after (chronicle : Chronicle) (moves : List Move) : Chronicle :=
  moves.foldl move chronicle

/-- The chronicle does not interfere: its world is the one the moves lead to. -/
theorem world_after (chronicle : Chronicle) (moves : List Move) :
    (chronicle.after moves).world = moves.foldl World.move chronicle.world := by
  induction moves generalizing chronicle with
  | nil => rfl
  | cons first rest inductionHypothesis => exact inductionHypothesis (chronicle.move first)

/-- What is kept by every move holds after all moves. -/
theorem after_induction {holds : Chronicle -> Prop} {chronicle : Chronicle}
    (initial : holds chronicle)
    (step : forall chronicle, holds chronicle -> forall next, holds (chronicle.move next))
    (moves : List Move) : holds (chronicle.after moves) := by
  induction moves generalizing chronicle with
  | nil => exact initial
  | cons first rest inductionHypothesis => exact inductionHypothesis (step chronicle initial first)

end Chronicle

end SequenceCalculator
