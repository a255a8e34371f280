import SequenceCalculator.Proofs.Evaluation.Rendering

namespace SequenceCalculator

/-!
# What an expression comes to, from what its parts come to

Once the pauses and the bound on the depth are out of the way, every shape of an
expression has one equation.  An operation combines the numbers of its operands, and a
range is the interval between two numbers.  A map and a reduce take the elements of
their source to their function.
-/

open Number

namespace Evaluation

section Results

variable {environment : Environment}

/-- The number that an expression has to come to. -/
def resultNumber (environment : Environment) (node : Node) : Outcome Failure Single :=
  (result environment node).bind Value.expectNumber

/-- The elements of the sequence that an expression has to come to. -/
def resultElements (environment : Environment) (node : Node) : Outcome Failure (List Single) :=
  (result environment node).bind Value.expectSequence

theorem value_number_settled (environment : Environment) (node : Node) :
    (number settled environment node).value = resultNumber environment node :=
  value_number settled environment node

theorem value_elements_settled (environment : Environment) (node : Node) :
    (elements settled environment node).value = resultElements environment node :=
  value_elements settled environment node

variable (normal : environment.IsNormal)
include normal

theorem result_operation (operator : Operator) (operands : List Node) :
    result environment (.operation operator operands) =
      (Outcome.traverse (resultNumber environment) operands).bind (combine operator) := by
  simp only [result_eq_rule normal, rule, value_operation, value_numbers, value_number_settled]

theorem result_range (start stop : Node) :
    result environment (.range start stop) =
      (resultNumber environment start).bind fun first =>
        (resultNumber environment stop).bind fun last => interval first last := by
  simp only [result_eq_rule normal, rule, value_range, value_number_settled]

theorem result_map (source function : Node) :
    result environment (.map source function) =
      (resultElements environment source).bind fun elements =>
        (mapElements settled function environment [] elements).value.map Value.sequence := by
  simp only [result_eq_rule normal, rule, Trial.value_andThen, Trial.value_map,
    value_elements_settled]

theorem result_reduce (source primer function : Node) :
    result environment (.reduce source primer function) =
      (resultElements environment source).bind fun elements =>
        (resultNumber environment primer).bind fun start =>
          (reduceElements settled function environment start elements).value.map
            Value.number := by
  simp only [result_eq_rule normal, rule, Trial.value_andThen, Trial.value_map,
    value_elements_settled, value_number_settled]

end Results

end Evaluation

end SequenceCalculator
