import SequenceCalculator.Number.Floating

namespace SequenceCalculator
namespace Number

/-!
The shortest decimal that reads back as a given magnitude.

The reals that round to a magnitude form an interval around it, whose ends
belong to it exactly when the magnitude's last bit is clear.  For one digit,
two digits and so on, the two decimals around the magnitude are tested against
that interval; the first count of digits with a hit wins, and of two hits the
nearer one, where a tie goes to the even digit.
-/

/-- A decimal `digits * 10 ^ exponent`. -/
structure ScaledDecimal where
  digits : Nat
  exponent : Int
deriving DecidableEq

/-- The interval of the reals that round to a magnitude, in quarters of a step. -/
structure RoundingInterval where
  lower : Nat
  upper : Nat
  closed : Bool

namespace RoundingInterval

/-- The interval of a positive magnitude.  Below a power of two the neighbour
is half as far away as above it. -/
def ofSteps (format : Format) (steps : Nat) : RoundingInterval :=
  let shift := format.excess steps
  let step := 2 ^ shift
  let narrow := shift != 0 && steps == 2 ^ steps.log2
  { lower := 4 * steps - (if narrow then step else 2 * step)
    upper := 4 * steps + 2 * step
    closed := steps / step % 2 == 0 }

/-- Whether a quotient of quarter steps lies in the interval. -/
def contains (interval : RoundingInterval) (numerator denominator : Nat) : Bool :=
  if interval.closed then
    interval.lower * denominator <= numerator &&
      numerator <= interval.upper * denominator
  else
    interval.lower * denominator < numerator &&
      numerator < interval.upper * denominator

end RoundingInterval

/-- The exponent of the leading decimal digit of a positive magnitude. -/
def leadingExponent (format : Format) (steps : Nat) : Int :=
  let whole := steps / 2 ^ format.places
  if whole = 0 then
    match (List.range (format.places + 1)).find?
        (fun count => 2 ^ format.places <= steps * 10 ^ count) with
    | some zeros => -(zeros : Int)
    | none => 0
  else ((Nat.repr whole).length : Int) - 1

/-- The better of the two multiples of `10 ^ exponent` around a magnitude, if
one of them rounds to it. -/
def decimalAt? (format : Format) (steps : Nat) (exponent : Int) :
    Option ScaledDecimal :=
  let interval := RoundingInterval.ofSteps format steps
  -- the multiple `count` is `count * unit / scale` quarter steps
  let scale := 10 ^ (-exponent).toNat
  let unit := 4 * 2 ^ format.places * 10 ^ exponent.toNat
  let count := 4 * steps * scale / unit
  let remainder := 4 * steps * scale % unit
  let fitsBelow := interval.contains (count * unit) scale
  let fitsAbove := interval.contains ((count + 1) * unit) scale
  if fitsBelow && fitsAbove then
    if 2 * remainder < unit then some ⟨count, exponent⟩
    else if unit < 2 * remainder then some ⟨count + 1, exponent⟩
    else some ⟨count + count % 2, exponent⟩
  else if fitsBelow then some ⟨count, exponent⟩
  else if fitsAbove then some ⟨count + 1, exponent⟩
  else none

/-- Drops trailing zeros, at most a given number of them. -/
def ScaledDecimal.trimmed (decimal : ScaledDecimal) : Nat -> ScaledDecimal
  | 0 => decimal
  | zeros + 1 =>
      if decimal.digits % 10 = 0 then
        ScaledDecimal.trimmed ⟨decimal.digits / 10, decimal.exponent + 1⟩ zeros
      else decimal

/-- The decimal with the fewest digits that rounds to a positive magnitude. -/
def shortestDecimal (format : Format) (steps : Nat) : ScaledDecimal :=
  let leading := leadingExponent format steps
  let found := (List.range format.precision).findSome? fun count =>
    decimalAt? format steps (leading - (count : Nat))
  (found.getD ⟨0, 0⟩).trimmed format.precision

end Number
end SequenceCalculator
