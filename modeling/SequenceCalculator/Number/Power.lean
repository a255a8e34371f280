import SequenceCalculator.Number.Floating

namespace SequenceCalculator
namespace Number

/-!
Powers of floating point numbers.

The power of two ordinary numbers is computed from natural logarithms in fixed
point, with far more places than any format holds, and rounded once at the
end.  Zero, one, the infinities and undefined numbers have exact answers that
do not go through the logarithm.  The exponent one half takes the square root,
which keeps the sign of zero and has no value at minus infinity.
-/

namespace FixedPoint

/-- Binary places behind the point. -/
def places : Nat := 320

/-- The number one. -/
def one : Nat := 2 ^ places

/-- The first terms of `z + z^3/3 + z^5/5 + ...`, given the square of `z`, from
the term that is the next power of `z` divided by an odd number. -/
def artanhSeries (square : Nat) : (terms odd power : Nat) -> Nat
  | 0, _, _ => 0
  | terms + 1, odd, power =>
      power / odd + artanhSeries square terms (odd + 2) (power * square / one)

/-- The logarithm of a number from one up to two. -/
def logarithm (value : Nat) : Nat :=
  let ratio := (value - one) * one / (value + one)
  2 * artanhSeries (ratio * ratio / one) 110 1 ratio

/-- The logarithm of two. -/
def logarithmTwo : Nat := logarithm (2 * one)

/-- The first terms of `1 + x + x^2/2 + x^3/6 + ...`, from a given term on. -/
def exponentialSeries (argument : Nat) : (terms count term : Nat) -> Nat
  | 0, _, _ => 0
  | terms + 1, count, term =>
      term + exponentialSeries argument terms (count + 1)
        (term * argument / one / count)

/-- The exponential of a number from zero up to the logarithm of two. -/
def exponential (argument : Nat) : Nat :=
  exponentialSeries argument 90 1 one

end FixedPoint

namespace Floating

variable {format : Format}

/-- Whether a number is an odd integer. -/
def isOdd : Floating format -> Bool
  | .finite _ magnitude =>
      magnitude.steps % 2 ^ format.places == 0 &&
        magnitude.steps / 2 ^ format.places % 2 == 1
  | _ => false

/-- The logarithm of a positive magnitude in fixed point. -/
def logarithmOfSteps (format : Format) (steps : Nat) : Int :=
  let leading := steps.log2
  let scaled := steps * FixedPoint.one / 2 ^ leading
  (FixedPoint.logarithm scaled : Int) +
    ((leading : Int) - (format.places : Int)) * (FixedPoint.logarithmTwo : Int)

/-- The rounded exponential of a logarithm in fixed point. -/
def ofLogarithm (negative : Bool) (logarithm : Int) : Floating format :=
  let exponent := logarithm.fdiv FixedPoint.logarithmTwo
  let rest := (logarithm.fmod FixedPoint.logarithmTwo).toNat
  if (format.ceiling : Int) < exponent then .infinite negative
  else if exponent < -(format.ceiling : Int) then ofSteps negative 0 1
  else
    let value := FixedPoint.exponential rest
    if exponent < 0 then
      ofRatio negative value (FixedPoint.one * 2 ^ exponent.natAbs)
    else ofRatio negative (value * 2 ^ exponent.natAbs) FixedPoint.one

/-- The power of a positive magnitude by a finite exponent. -/
def powerOfSteps (negative : Bool) (base : Magnitude format)
    (exponentNegative : Bool) (exponent : Magnitude format) : Floating format :=
  ofLogarithm negative
    ((logarithmOfSteps format base.steps * signed exponentNegative exponent).fdiv
      (2 ^ format.places : Nat))

/-- The number one half. -/
def half : Floating format := ofRatio false 1 2

/-- The rounded square root.  A zero is its own root, and no other number with a
minus sign has one. -/
def squareRoot : Floating format -> Floating format
  | .nan => .nan
  | .infinite negative => if negative then .nan else .infinite false
  | .finite negative magnitude =>
      if magnitude.steps = 0 then .finite negative magnitude
      else if negative then .nan
      else
        ofLogarithm false ((logarithmOfSteps format magnitude.steps).fdiv 2)

/-- The rounded power in general.  Anything to the power zero is one, and so is
one to any power; a negative base needs a whole exponent. -/
def generalPower (base exponent : Floating format) : Floating format :=
  if exponent.isZero || base == one then one
  else
    match base, exponent with
    | .nan, _ => .nan
    | _, .nan => .nan
    | .infinite negative, _ =>
        let sign := negative && exponent.isOdd
        if exponent.isNegative then ofSteps sign 0 1 else .infinite sign
    | .finite negative magnitude, _ =>
        let sign := negative && exponent.isOdd
        if magnitude.steps = 0 then
          if exponent.isNegative then .infinite sign else ofSteps sign 0 1
        else
          match exponent with
          | .nan => .nan
          | .infinite shrinking =>
              if magnitude.steps = 2 ^ format.places then one
              else if decide (magnitude.steps < 2 ^ format.places) != shrinking then
                zero
              else .infinite false
          | .finite exponentNegative exponentMagnitude =>
              if negative && !exponent.isWhole then .nan
              else powerOfSteps sign magnitude exponentNegative exponentMagnitude

/-- The rounded power, where the exponent one half takes the square root. -/
def power (base exponent : Floating format) : Floating format :=
  if exponent == half then base.squareRoot else base.generalPower exponent

end Floating

end Number
end SequenceCalculator
