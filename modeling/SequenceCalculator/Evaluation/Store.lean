import SequenceCalculator.Evaluation.Program

namespace SequenceCalculator

/-!
Evaluation on tables that are changed in place.

The bindings of a session are a table.  An expression is evaluated on the table at an
address; whatever is written to that table while the evaluation is suspended is seen when
it goes on.  A map and a reduce make one copy of their table, and before each element
they write their parameters into the copy, which is the table of their body.  Only these
writes, and that of a declaration once its expression has a value, change a table.

Nothing else is different from the evaluation with environments.
-/

open Number Evaluation

/-- The tables of bindings, in the order in which they were made. -/
abbrev Store := List Environment

/-- A computation that leaves the store to others whenever it is suspended. -/
inductive Process (α : Type) where
  /-- It has ended and left this store. -/
  | done (store : Store) (outcome : Outcome Failure α)
  /-- It has left this store and goes on with the one it gets. -/
  | paused (store : Store) (resume : Store -> Process α)

namespace Process

variable {α β : Type}

/-- Goes on with the value of a process and the store it has left. -/
def andThen : Process α -> (α -> Store -> Process β) -> Process β
  | .done store (.success value), next => next value store
  | .done store (.failure reason), _ => .done store (.failure reason)
  | .done store (.fault fault), _ => .done store (.fault fault)
  | .paused store resume, next => .paused store fun later => (resume later).andThen next

/-- The store and the outcome of a process that nobody interrupts. -/
def complete : Process α -> Store × Outcome Failure α
  | .done store outcome => (store, outcome)
  | .paused store resume => (resume store).complete

end Process

/-- What is done with a store. -/
abbrev Stored (α : Type) := Store -> Process α

namespace Stored

variable {α β : Type}

def ofOutcome (outcome : Outcome Failure α) : Stored α := fun store => .done store outcome

def succeed (value : α) : Stored α := ofOutcome (.success value)

def fail (reason : Failure) : Stored α := ofOutcome (.failure reason)

def stop (fault : Fault) : Stored α := ofOutcome (.fault fault)

def andThen (first : Stored α) (next : α -> Stored β) : Stored β :=
  fun store => (first store).andThen next

def map (first : Stored α) (change : α -> β) : Stored β :=
  first.andThen fun value => succeed (change value)

/-- Leaves the store to others and then goes on. -/
def afterPause (next : Stored α) : Stored α := fun store => .paused store next

/-- Does something for every item in order, up to the first that has no value.  The
values found so far are given in reverse order. -/
def traverseFrom (step : α -> Stored β) (found : List β) : List α -> Stored (List β)
  | [] => succeed found.reverse
  | item :: items =>
      (step item).andThen fun value => traverseFrom step (value :: found) items

def traverse (step : α -> Stored β) (items : List α) : Stored (List β) :=
  traverseFrom step [] items

/-- The bindings of a table. -/
def read (address : Nat) : Stored Environment :=
  fun store => .done store (.success (store[address]?.getD []))

/-- Makes a copy of a table. -/
def copy (address : Nat) : Stored Nat :=
  fun store => .done (store ++ [store[address]?.getD []]) (.success store.length)

/-- Binds a name in a table, unless there is no name to bind. -/
def write (address : Nat) (name : Option Text) (node : Node) : Stored Unit :=
  fun store =>
    .done (store.modify address fun table => assign table name node) (.success ())

/-!
## Expressions
-/

/-- An evaluator of expressions on the table at an address. -/
abbrev Evaluator := Nat -> Node -> Stored Value

section Rules

variable (inner : Evaluator)

def number (address : Nat) (node : Node) : Stored Single :=
  (inner address node).andThen fun value => ofOutcome value.expectNumber

def elements (address : Nat) (node : Node) : Stored (List Single) :=
  (inner address node).andThen fun value => ofOutcome value.expectSequence

def numbers (address : Nat) (nodes : List Node) : Stored (List Single) :=
  traverse (number inner address) nodes

def baseAndRest (address : Nat) : List Node -> Stored (Single × List Single)
  | [] => stop .missingOperand
  | base :: rest =>
      (number inner address base).andThen fun base =>
        (numbers inner address rest).map fun rest => (base, rest)

def operation (address : Nat) : Operator -> List Node -> Stored Value
  | .plus, operands =>
      (numbers inner address operands).map fun values => .number (foldSum values)
  | .times, operands =>
      (numbers inner address operands).map fun values => .number (foldProduct values)
  | .minus, operands =>
      (baseAndRest inner address operands).map fun (base, rest) =>
        .number (subtractAll base rest)
  | .over, operands =>
      (baseAndRest inner address operands).andThen fun (dividend, divisors) =>
        let divisor := foldProduct divisors
        if divisor.isZero then fail (.divisionByZero dividend)
        else succeed (.number (quotient dividend divisor))
  | .power, operands =>
      (baseAndRest inner address operands).map fun (base, exponents) =>
        .number (powerAll base exponents)

def range (address : Nat) (start stop : Node) : Stored Value :=
  (number inner address start).andThen fun start =>
    (number inner address stop).andThen fun stop =>
      if stop.below start then fail (.malformedRange start stop)
      else
        ofOutcome ((Outcome.ofExcept (integerRange start stop)).map Value.sequence)

/-- Evaluates the body of a function at every element, each written into the table of
the body. -/
def mapElements (function : Node) (scope : Nat) (found : List Single) :
    List Single -> Stored (List Single)
  | [] => succeed found.reverse
  | element :: rest =>
      afterPause <|
        match mapperParts function with
        | .error fault => stop fault
        | .ok (parameter, body) =>
            (write scope parameter (.number element)).andThen fun _ =>
              (number inner scope body).andThen fun value =>
                mapElements function scope (value :: found) rest

/-- Folds the body of a function over the elements.  The accumulator is written first. -/
def reduceElements (function : Node) (scope : Nat) (accumulator : Single) :
    List Single -> Stored Single
  | [] => succeed accumulator
  | element :: rest =>
      afterPause <|
        match reducerParts function with
        | .error fault => stop fault
        | .ok (first, second, body) =>
            (write scope first (.number accumulator)).andThen fun _ =>
              (write scope second (.number element)).andThen fun _ =>
                (number inner scope body).andThen fun value =>
                  reduceElements function scope value rest

def rule (address : Nat) : Node -> Stored Value
  | .number value => succeed (.number value)
  | .name text =>
      (read address).andThen fun table =>
        match table.find? text with
        | none => fail (.unknownVariable text)
        | some (.number value) => succeed (.number value)
        | some bound => inner address bound
  | .operation operator operands => operation inner address operator operands
  | .range start stop => range inner address start stop
  | .sequence nodes => (numbers inner address nodes).map Value.sequence
  | .map source function =>
      (elements inner address source).andThen fun source =>
        (copy address).andThen fun scope =>
          (mapElements inner function scope [] source).map Value.sequence
  | .reduce source primer function =>
      (elements inner address source).andThen fun source =>
        (number inner address primer).andThen fun primer =>
          (copy address).andThen fun scope =>
            (reduceElements inner function scope primer source).map Value.number
  | other => stop (.notEvaluable other.shown)

end Rules

/-- The value of an expression on the table at an address. -/
def value : (depth : Nat) -> Evaluator
  | 0, _, _ => stop .tooDeep
  | depth + 1, address, node => afterPause (rule (value depth) address node)

/-!
## Programs
-/

/-- The text of an expression on the table at an address. -/
def display : (depth : Nat) -> Nat -> Node -> Stored Text
  | 0, _, _ => stop .tooDeep
  | depth + 1, address, node =>
      match node with
      | .number value => succeed value.numeral
      | .name text =>
          (read address).andThen fun table =>
            match table.find? text with
            | none => fail (.unknownVariable text)
            | some bound => display depth address bound
      | .sequence nodes => (traverse (display depth address) nodes).map Value.braces
      | other => (value depth address other).map Value.text

/-- Runs a statement.  A declaration writes to the table. -/
def statement (depth : Nat) (address : Nat) : Node -> Stored Printed
  | .declare name expression =>
      (value depth address expression).andThen fun value =>
        match boundName name with
        | .ok name =>
            (write address name value.toNode).andThen fun _ => succeed (.text [])
        | .error fault => stop fault
  | .print content =>
      match literal content with
      | .ok printed => succeed printed
      | .error fault => stop fault
  | .out expression => (display depth address expression).map Printed.text
  | other => stop (.notStatement other.shown)

/-- Runs statements in order, after some that have put something out. -/
def program (depth : Nat) (address : Nat) (printed : List Printed) :
    List Node -> Stored Text
  | [] => ofOutcome (Outcome.ofExcept (joinFrom 0 printed))
  | node :: nodes =>
      (statement depth address node).andThen fun item =>
        program depth address (printed ++ [item]) nodes

end Stored

end SequenceCalculator
