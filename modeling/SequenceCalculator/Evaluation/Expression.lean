import SequenceCalculator.Evaluation.Environment
import SequenceCalculator.Evaluation.Run
import SequenceCalculator.Evaluation.Value
import SequenceCalculator.Number.Folds
import SequenceCalculator.Tree.Shown

namespace SequenceCalculator
namespace Evaluation

/-!
Evaluation of expressions.

An evaluation pauses before each expression, before each element of a map and
before each step of a reduce.  The rules are functions of the evaluator for the
expressions inside; the evaluator itself ties the knot with a bound on how deep
expressions may be nested, where a name counts as the expression it is bound to.
-/

open Number

/-- An evaluator of expressions. -/
abbrev Evaluator := Environment -> Node -> Trial Failure Value

section Rules

variable (inner : Evaluator)

/-- Evaluates an expression that has to be a number. -/
def number (environment : Environment) (node : Node) : Trial Failure Single :=
  (inner environment node).andThen fun value => .ofOutcome value.expectNumber

/-- Evaluates an expression that has to be a sequence. -/
def elements (environment : Environment) (node : Node) :
    Trial Failure (List Single) :=
  (inner environment node).andThen fun value => .ofOutcome value.expectSequence

/-- Evaluates expressions that have to be numbers. -/
def numbers (environment : Environment) (nodes : List Node) :
    Trial Failure (List Single) :=
  Trial.traverse (number inner environment) nodes

/-- Evaluates the first operand and the others apart. -/
def baseAndRest (environment : Environment) :
    List Node -> Trial Failure (Single × List Single)
  | [] => .stop .missingOperand
  | base :: rest =>
      (number inner environment base).andThen fun base =>
        (numbers inner environment rest).map fun rest => (base, rest)

/-- Evaluates an operation. -/
def operation (environment : Environment) :
    Operator -> List Node -> Trial Failure Value
  | .plus, operands =>
      (numbers inner environment operands).map fun values => .number (foldSum values)
  | .times, operands =>
      (numbers inner environment operands).map fun values =>
        .number (foldProduct values)
  | .minus, operands =>
      (baseAndRest inner environment operands).map fun (base, rest) =>
        .number (subtractAll base rest)
  | .over, operands =>
      (baseAndRest inner environment operands).andThen fun (dividend, divisors) =>
        let divisor := foldProduct divisors
        if divisor.isZero then .fail (.divisionByZero dividend)
        else .succeed (.number (quotient dividend divisor))
  | .power, operands =>
      (baseAndRest inner environment operands).map fun (base, exponents) =>
        .number (powerAll base exponents)

/-- Evaluates a range. -/
def range (environment : Environment) (start stop : Node) : Trial Failure Value :=
  (number inner environment start).andThen fun start =>
    (number inner environment stop).andThen fun stop =>
      if stop.below start then .fail (.malformedRange start stop)
      else
        .ofOutcome ((Outcome.ofExcept (integerRange start stop)).map Value.sequence)

/-- The name that a binding position holds.  A number may stand there too; it is
no name. -/
def boundName : Node -> Except Fault (Option Text)
  | .name text => .ok (some text)
  | .string content => .ok (some content)
  | .number _ => .ok none
  | other => .error (.noField (String.ofList other.shapeName) "value")

/-- The bindings with one more, unless there is no name to bind. -/
def assign (environment : Environment) (name : Option Text) (node : Node) :
    Environment :=
  match name with
  | some name => environment.insert name node
  | none => environment

/-- The parameter and the body of a function of one parameter. -/
def mapperParts : Node -> Except Fault (Option Text × Node)
  | .mapper parameter body => (boundName parameter).map fun parameter => (parameter, body)
  | other => .error (.noField (String.ofList other.shapeName) "arg")

/-- The parameters and the body of a function of two parameters. -/
def reducerParts : Node -> Except Fault (Option Text × Option Text × Node)
  | .reducer first second body => do
      let first <- boundName first
      let second <- boundName second
      return (first, second, body)
  | other => .error (.noField (String.ofList other.shapeName) "first")

/-- Evaluates the body of a function at every element.  The parameter is bound
anew for each element in one scope, and the values found so far are given in
reverse order. -/
def mapElements (function : Node) (scope : Environment) (found : List Single) :
    List Single -> Trial Failure (List Single)
  | [] => .succeed found.reverse
  | element :: rest =>
      Trial.afterPause fun _ =>
        match mapperParts function with
        | .error fault => .stop fault
        | .ok (parameter, body) =>
            let scope := assign scope parameter (.number element)
            (number inner scope body).andThen fun value =>
              mapElements function scope (value :: found) rest

/-- Folds the body of a function over the elements.  Both parameters are bound
anew for each element in one scope, the accumulator first. -/
def reduceElements (function : Node) (scope : Environment) (accumulator : Single) :
    List Single -> Trial Failure Single
  | [] => .succeed accumulator
  | element :: rest =>
      Trial.afterPause fun _ =>
        match reducerParts function with
        | .error fault => .stop fault
        | .ok (first, second, body) =>
            let scope :=
              assign (assign scope first (.number accumulator)) second (.number element)
            (number inner scope body).andThen fun value =>
              reduceElements function scope value rest

/-- Evaluates an expression from the values of the expressions inside it.  A name
bound to a number is that number; any other binding is evaluated. -/
def rule (environment : Environment) : Node -> Trial Failure Value
  | .number value => .succeed (.number value)
  | .name text =>
      match environment.find? text with
      | none => .fail (.unknownVariable text)
      | some (.number value) => .succeed (.number value)
      | some bound => inner environment bound
  | .operation operator operands => operation inner environment operator operands
  | .range start stop => range inner environment start stop
  | .sequence nodes => (numbers inner environment nodes).map Value.sequence
  | .map source function =>
      (elements inner environment source).andThen fun source =>
        (mapElements inner function environment [] source).map Value.sequence
  | .reduce source primer function =>
      (elements inner environment source).andThen fun source =>
        (number inner environment primer).andThen fun primer =>
          (reduceElements inner function environment primer source).map Value.number
  | other => .stop (.notEvaluable other.shown)

end Rules

/-- The value of an expression, with at most the given number of evaluations
inside one another. -/
def value : (depth : Nat) -> Evaluator
  | 0, _, _ => .stop .tooDeep
  | depth + 1, environment, node =>
      Trial.afterPause fun _ => rule (value depth) environment node

/-- The value of an expression that has to be of a given kind. -/
def evaluate (depth : Nat) (environment : Environment) (expected : Kind)
    (node : Node) : Trial Failure Value :=
  (value depth environment node).andThen fun value => .ofOutcome (value.expect expected)

end Evaluation
end SequenceCalculator
