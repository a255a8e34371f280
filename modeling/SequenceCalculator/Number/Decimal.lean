import SequenceCalculator.Number.Floating
import SequenceCalculator.Text.Digit

namespace SequenceCalculator
namespace Number

/-!
Reading decimal numerals.  The numeral is read exactly and rounded once to the
format asked for.
-/

/-- The number that a list of place values denotes, most significant first. -/
def ofPlaceValues (values : List Nat) : Nat :=
  values.foldl (fun total value => 10 * total + value) 0

/-- The place values of a list of characters, if all are decimal digits. -/
def placeValues? (characters : Text) : Option (List Nat) :=
  characters.mapM Text.decimalValue?

/-- The number nearest to a numeral with a whole and a fractional part. -/
def readDecimal? (format : Format) (negative : Bool)
    (whole fraction : Text) : Option (Floating format) := do
  let wholeValues <- placeValues? whole
  let fractionValues <- placeValues? fraction
  some (Floating.ofRatio negative
    (ofPlaceValues (wholeValues ++ fractionValues))
    (10 ^ fractionValues.length))

/-- The integer that a numeral denotes. -/
def readInteger? (negative : Bool) (digits : Text) : Option Int := do
  let values <- placeValues? digits
  let magnitude : Int := ofPlaceValues values
  some (if negative then -magnitude else magnitude)

end Number
end SequenceCalculator
