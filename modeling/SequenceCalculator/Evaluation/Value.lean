import SequenceCalculator.Number.Numeral
import SequenceCalculator.Outcome
import SequenceCalculator.Tree.Node

namespace SequenceCalculator

/-!
Values and failures of evaluation.

A value is a number or a sequence of numbers.  A failure is a mistake of the
program, with the data its message needs.
-/

open Number

/-- What an expression evaluates to. -/
inductive Value where
  | number (value : Single)
  | sequence (elements : List Single)
deriving DecidableEq

namespace Value

/-- The kind of a value. -/
def kind : Value -> Kind
  | .number _ => .number
  | .sequence _ => .sequence

/-- The expression that a value is. -/
def toNode : Value -> Node
  | .number value => .number value
  | .sequence elements => .sequence (elements.map .number)

/-- How a sequence is written, given how its elements are. -/
def braces (texts : List Text) : Text :=
  '\x7b' :: Text.join ", ".toList texts ++ ['\x7d']

/-- How a value is written. -/
def text : Value -> Text
  | .number value => value.numeral
  | .sequence elements => braces (elements.map Floating.numeral)

end Value

/-- A mistake of a program. -/
inductive Failure where
  | unknownVariable (name : Text)
  | wrongKind (value : Value) (expected : Kind)
  | divisionByZero (dividend : Single)
  | malformedRange (start stop : Single)
deriving DecidableEq

/-- The message of a failure. -/
def Failure.message : Failure -> Text
  | .unknownVariable name => "unknown variable '".toList ++ name ++ "'".toList
  | .wrongKind value expected =>
      "expression ".toList ++ value.text ++ " should be a ".toList ++ expected.name ++
        ", yet it is a ".toList ++ value.kind.name
  | .divisionByZero dividend =>
      "trying to divide ".toList ++ dividend.numeral ++ " by zero".toList
  | .malformedRange start stop =>
      "malformed range: ".toList ++ start.numeral ++ " is greater than ".toList ++
        stop.numeral

namespace Value

/-- A value of an expected kind. -/
def expect (expected : Kind) (value : Value) : Outcome Failure Value :=
  if expected = .anything || value.kind = expected then .success value
  else .failure (.wrongKind value expected)

/-- A value that has to be a number. -/
def expectNumber : Value -> Outcome Failure Single
  | .number value => .success value
  | .sequence elements => .failure (.wrongKind (.sequence elements) .number)

/-- A value that has to be a sequence. -/
def expectSequence : Value -> Outcome Failure (List Single)
  | .sequence elements => .success elements
  | .number value => .failure (.wrongKind (.number value) .sequence)

end Value

end SequenceCalculator
