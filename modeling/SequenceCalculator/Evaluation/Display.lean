import SequenceCalculator.Evaluation.Expression

namespace SequenceCalculator
namespace Evaluation

/-!
Display: the text of an expression.

Numbers are written as they are, names as what they are bound to and sequences
element by element.  Everything else is evaluated first.  The elements of a
displayed sequence are displayed and not evaluated, so they may be sequences
themselves.
-/

open Number

/-- The text of an expression, with at most the given number of displays and
evaluations inside one another. -/
def display : (depth : Nat) -> Environment -> Node -> Trial Failure Text
  | 0, _, _ => .stop .tooDeep
  | depth + 1, environment, node =>
      match node with
      | .number value => .succeed value.numeral
      | .name text =>
          match environment.find? text with
          | none => .fail (.unknownVariable text)
          | some bound => display depth environment bound
      | .sequence nodes =>
          (Trial.traverse (display depth environment) nodes).map Value.braces
      | other => (value depth environment other).map Value.text

end Evaluation
end SequenceCalculator
