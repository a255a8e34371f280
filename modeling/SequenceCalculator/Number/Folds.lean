import SequenceCalculator.Fault
import SequenceCalculator.Number.Power

namespace SequenceCalculator
namespace Number

/-!
The arithmetic of whole operand lists.

Sums and products are accumulated in double precision and rounded to single
precision once; differences and quotients of two numbers are computed in
single precision.  The operands may come from either format.
-/

variable {format : Format}

/-- The sum of a list, zero when it is empty. -/
def foldSum (values : List (Floating format)) : Single :=
  (values.foldl (fun total value => total.add (value.convert .double))
    (Floating.zero : Double)).convert .single

/-- The product of a list, one when it is empty. -/
def foldProduct (values : List (Floating format)) : Single :=
  (values.foldl (fun total value => total.multiply (value.convert .double))
    (Floating.one : Double)).convert .single

/-- A number minus the sum of others. -/
def subtractAll (base : Floating format) (rest : List (Floating format)) : Single :=
  (base.convert .single).subtract (foldSum rest)

/-- The quotient of two numbers. -/
def quotient (base divisor : Floating format) : Single :=
  (base.convert .single).divide (divisor.convert .single)

/-- Repeated powers from the left, each rounded to single precision. -/
def powerAll (base : Floating format) (exponents : List (Floating format)) : Single :=
  exponents.foldl
    (fun result exponent =>
      ((result.convert .double).power (exponent.convert .double)).convert .single)
    (base.convert .single)

/-- The integer part of a range bound; a bound without one is a fault. -/
def rangeBound : Floating format -> Except Fault Int
  | .nan => .error .undefinedBound
  | .infinite _ => .error .infiniteBound
  | .finite negative magnitude =>
      let whole : Int := (magnitude.steps / 2 ^ format.places : Nat)
      .ok (if negative then -whole else whole)

/-- An integer in double and then in single precision. -/
def ofInteger (value : Int) : Single :=
  (Floating.ofInt value : Double).convert .single

/-- The whole numbers between the integer parts of two bounds, both included. -/
def integerRange (start stop : Floating format) : Except Fault (List Single) := do
  let first <- rangeBound start
  let last <- rangeBound stop
  .ok ((List.range (last - first + 1).toNat).map fun index =>
    ofInteger (first + (index : Nat)))

end Number
end SequenceCalculator
