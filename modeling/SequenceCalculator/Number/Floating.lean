import SequenceCalculator.Number.Rounding

namespace SequenceCalculator
namespace Number

/-!
Floating point numbers of a format, and their arithmetic.

A finite number is a sign and a magnitude that the format can represent, so
equal values have equal representations up to the sign of zero.  Each
operation computes the exact result as a quotient of steps and rounds it once.
-/

/-- A magnitude of a format, counted in smallest steps. -/
structure Magnitude (format : Format) where
  steps : Nat
  representable : format.Representable steps
deriving DecidableEq

/-- A number of a format. -/
inductive Floating (format : Format) where
  | nan
  | infinite (negative : Bool)
  | finite (negative : Bool) (magnitude : Magnitude format)
deriving DecidableEq

/-- The numbers programs compute with. -/
abbrev Single := Floating Format.single

/-- The numbers sums and products are accumulated in. -/
abbrev Double := Floating Format.double

namespace Floating

variable {format : Format}

/-- The number nearest to an exact quotient of steps, infinite when that lies
beyond the largest magnitude. -/
def ofSteps (negative : Bool) (numerator denominator : Nat) : Floating format :=
  if bounded : format.snap numerator denominator < 2 ^ format.ceiling then
    .finite negative
      ⟨format.snap numerator denominator, format.snap_divisible _ _, bounded⟩
  else .infinite negative

/-- The number nearest to an exact quotient. -/
def ofRatio (negative : Bool) (numerator denominator : Nat) : Floating format :=
  ofSteps negative (numerator * 2 ^ format.places) denominator

/-- The number nearest to an integer. -/
def ofInt (value : Int) : Floating format :=
  ofRatio (value < 0) value.natAbs 1

/-- Positive zero. -/
def zero : Floating format := ofInt 0

/-- One. -/
def one : Floating format := ofInt 1

/-- The signed number of steps of a finite number. -/
def signed (negative : Bool) (magnitude : Magnitude format) : Int :=
  if negative then -(magnitude.steps : Int) else magnitude.steps

/-- Whether the number is zero of either sign. -/
def isZero : Floating format -> Bool
  | .finite _ magnitude => magnitude.steps == 0
  | _ => false

/-- Whether the number is neither infinite nor undefined. -/
def isFinite : Floating format -> Bool
  | .finite _ _ => true
  | _ => false

/-- Whether the number carries a minus sign. -/
def isNegative : Floating format -> Bool
  | .nan => false
  | .infinite negative => negative
  | .finite negative _ => negative

/-- The number in another format, rounded once. -/
def convert (target : Format) : Floating format -> Floating target
  | .nan => .nan
  | .infinite negative => .infinite negative
  | .finite negative magnitude =>
      ofSteps negative (magnitude.steps * 2 ^ target.places) (2 ^ format.places)

/-- The number with the opposite sign. -/
def negate : Floating format -> Floating format
  | .nan => .nan
  | .infinite negative => .infinite (!negative)
  | .finite negative magnitude => .finite (!negative) magnitude

/-- The rounded sum.  Opposite finite numbers add up to positive zero. -/
def add : Floating format -> Floating format -> Floating format
  | .nan, _ => .nan
  | _, .nan => .nan
  | .infinite left, .infinite right =>
      if left == right then .infinite left else .nan
  | .infinite left, .finite _ _ => .infinite left
  | .finite _ _, .infinite right => .infinite right
  | .finite left leftMagnitude, .finite right rightMagnitude =>
      let total := signed left leftMagnitude + signed right rightMagnitude
      let negative := if total = 0 then left && right else decide (total < 0)
      ofSteps negative total.natAbs 1

/-- The rounded difference. -/
def subtract (left right : Floating format) : Floating format :=
  left.add right.negate

/-- The rounded product. -/
def multiply : Floating format -> Floating format -> Floating format
  | .nan, _ => .nan
  | _, .nan => .nan
  | .infinite left, .infinite right => .infinite (left != right)
  | .infinite left, .finite right magnitude =>
      if magnitude.steps = 0 then .nan else .infinite (left != right)
  | .finite left magnitude, .infinite right =>
      if magnitude.steps = 0 then .nan else .infinite (left != right)
  | .finite left leftMagnitude, .finite right rightMagnitude =>
      ofSteps (left != right) (leftMagnitude.steps * rightMagnitude.steps)
        (2 ^ format.places)

/-- The rounded quotient.  Dividing by zero gives an infinity, or no number
when the dividend is zero as well. -/
def divide : Floating format -> Floating format -> Floating format
  | .nan, _ => .nan
  | _, .nan => .nan
  | .infinite _, .infinite _ => .nan
  | .infinite left, .finite right _ => .infinite (left != right)
  | .finite left _, .infinite right => ofSteps (left != right) 0 1
  | .finite left leftMagnitude, .finite right rightMagnitude =>
      if rightMagnitude.steps = 0 then
        if leftMagnitude.steps = 0 then .nan else .infinite (left != right)
      else
        ofSteps (left != right) (leftMagnitude.steps * 2 ^ format.places)
          rightMagnitude.steps

/-- Numeric equality: zeros of both signs are equal, and an undefined number
equals nothing. -/
def same : Floating format -> Floating format -> Bool
  | .infinite left, .infinite right => left == right
  | .finite left leftMagnitude, .finite right rightMagnitude =>
      signed left leftMagnitude == signed right rightMagnitude
  | _, _ => false

/-- Numeric order; an undefined number is below nothing. -/
def below : Floating format -> Floating format -> Bool
  | .nan, _ => false
  | _, .nan => false
  | .infinite left, .infinite right => left && !right
  | .infinite left, .finite _ _ => left
  | .finite _ _, .infinite right => !right
  | .finite left leftMagnitude, .finite right rightMagnitude =>
      signed left leftMagnitude < signed right rightMagnitude

/-- The integer part of a finite number, towards zero. -/
def truncate? : Floating format -> Option Int
  | .finite negative magnitude =>
      let whole : Int := (magnitude.steps / 2 ^ format.places : Nat)
      some (if negative then -whole else whole)
  | _ => none

/-- Whether a finite number has no fractional part. -/
def isWhole : Floating format -> Bool
  | .finite _ magnitude => magnitude.steps % 2 ^ format.places == 0
  | _ => false

end Floating

end Number
end SequenceCalculator
