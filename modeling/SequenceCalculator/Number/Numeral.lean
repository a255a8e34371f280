import SequenceCalculator.Number.Shortest
import SequenceCalculator.Text.Basic

namespace SequenceCalculator
namespace Number

/-!
Numerals: how the calculator writes its numbers.

Whole numbers below ten to the sixteenth are written as integers, without a
sign for zero.  All others are written with the fewest digits that read back,
positionally from one ten-thousandth up to a million and with an exponent
outside of that.
-/

/-- The decimal digits of a natural number. -/
def digitsOf (value : Nat) : Text :=
  (Nat.repr value).toList

/-- The decimal numeral of an integer. -/
def integerNumeral (value : Int) : Text :=
  if value < 0 then '-' :: digitsOf value.natAbs else digitsOf value.natAbs

namespace ScaledDecimal

/-- Writes a decimal with a point and no exponent. -/
def positional (decimal : ScaledDecimal) : Text :=
  let digits := digitsOf decimal.digits
  if 0 <= decimal.exponent then
    digits ++ List.replicate decimal.exponent.toNat '0' ++ ['.', '0']
  else
    let behind := (-decimal.exponent).toNat
    if behind < digits.length then
      digits.take (digits.length - behind) ++ '.' ::
        digits.drop (digits.length - behind)
    else '0' :: '.' :: (List.replicate (behind - digits.length) '0' ++ digits)

/-- Writes a decimal with one digit before the point and a signed exponent of
at least two digits. -/
def scientific (decimal : ScaledDecimal) : Text :=
  let digits := digitsOf decimal.digits
  let exponent : Int := decimal.exponent + digits.length - 1
  let mantissa :=
    match digits with
    | leading :: second :: rest => leading :: '.' :: second :: rest
    | short => short
  let magnitude := digitsOf exponent.natAbs
  let padded := if magnitude.length < 2 then '0' :: magnitude else magnitude
  mantissa ++ 'e' :: (if exponent < 0 then '-' else '+') :: padded

end ScaledDecimal

/-- Writes a positive magnitude with the fewest digits that read back,
positionally from one ten-thousandth up to a power of ten. -/
def magnitudeNumeralBelow (zeros : Nat) (format : Format) (steps : Nat) : Text :=
  let decimal := shortestDecimal format steps
  if 2 ^ format.places <= steps * 10 ^ (4 : Nat) &&
      steps < 10 ^ zeros * 2 ^ format.places then
    decimal.positional
  else decimal.scientific

/-- Writes a positive magnitude with the fewest digits that read back. -/
def magnitudeNumeral (format : Format) (steps : Nat) : Text :=
  magnitudeNumeralBelow 6 format steps

/-- The numeral of a number. -/
def Floating.numeral {format : Format} : Floating format -> Text
  | .nan => "nan".toList
  | .infinite negative => (if negative then "-inf" else "inf").toList
  | .finite negative magnitude =>
      if magnitude.steps % 2 ^ format.places = 0 &&
          magnitude.steps < 10 ^ (16 : Nat) * 2 ^ format.places then
        let whole : Int := (magnitude.steps / 2 ^ format.places : Nat)
        integerNumeral (if negative then -whole else whole)
      else
        (if negative then ['-'] else []) ++
          magnitudeNumeral format magnitude.steps

end Number
end SequenceCalculator
