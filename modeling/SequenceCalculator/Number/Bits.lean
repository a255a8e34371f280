import SequenceCalculator.Number.Floating

namespace SequenceCalculator
namespace Number

/-!
The interchange encoding of floating point numbers: a sign bit, a biased
exponent and the significant bits below the leading one.  Every undefined
number is written as the same quiet pattern.
-/

namespace Format

/-- The weight of the lowest exponent bit. -/
def exponentWeight (format : Format) : Nat :=
  2 ^ (format.precision - 1)

/-- The exponent field that marks infinities and undefined numbers. -/
def specialExponent (format : Format) : Nat :=
  format.ceiling - format.precision + 2

/-- The weight of the sign bit. -/
def signWeight (format : Format) : Nat :=
  (format.specialExponent + 1) * format.exponentWeight

end Format

namespace Floating

variable {format : Format}

/-- The encoding of a magnitude. -/
private def magnitudeBits (format : Format) (steps : Nat) : Nat :=
  if steps < format.exponentWeight then steps
  else
    let shift := format.excess steps
    shift * format.exponentWeight + steps / 2 ^ shift

/-- The interchange encoding. -/
def toBits : Floating format -> Nat
  | .nan =>
      format.specialExponent * format.exponentWeight + format.exponentWeight / 2
  | .infinite negative =>
      (if negative then format.signWeight else 0) +
        format.specialExponent * format.exponentWeight
  | .finite negative magnitude =>
      (if negative then format.signWeight else 0) +
        magnitudeBits format magnitude.steps

/-- The number with a given interchange encoding. -/
def ofBits (bits : Nat) : Floating format :=
  let negative := decide (format.signWeight <= bits)
  let magnitude := bits % format.signWeight
  let exponent := magnitude / format.exponentWeight
  let fraction := magnitude % format.exponentWeight
  if exponent = format.specialExponent then
    if fraction = 0 then .infinite negative else .nan
  else if exponent = 0 then ofSteps negative fraction 1
  else ofSteps negative ((format.exponentWeight + fraction) * 2 ^ (exponent - 1)) 1

end Floating

end Number
end SequenceCalculator
