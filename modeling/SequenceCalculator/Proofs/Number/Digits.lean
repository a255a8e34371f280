import SequenceCalculator.Number.Decimal
import SequenceCalculator.Number.Numeral
import SequenceCalculator.Proofs.Number.Order

namespace SequenceCalculator
namespace Number

/-!
# Integers are read as they were written

The digits of a natural number have place values that add up to the number, so a
numeral of them is read as the number nearest to it.  It is read in double precision
and then rounded to single precision.  A number that single precision can represent
survives both, so it is read back, apart from the sign of zero, which is not written.
-/

/-- Decimal digits of the Latin script are the first span of decimal digits. -/
theorem decimalValue?_of_isDigit {character : Char} (digit : character.isDigit = true) :
    Text.decimalValue? character = some (character.toNat - '0'.toNat) := by
  rcases Char.isDigit_iff_toNat.mp digit with ⟨least, greatest⟩
  have zero : '0'.toNat = 48 := rfl
  have nine : '9'.toNat = 57 := rfl
  rw [zero] at least
  rw [nine] at greatest
  have found : Text.decimalSpans.find? (fun span =>
      decide (span.1 <= character.toNat) && decide (character.toNat <= span.2)) =
      some (48, 57) := by
    unfold Text.decimalSpans
    rw [List.find?_cons_of_pos]
    simp only [Bool.and_eq_true, decide_eq_true_eq]
    omega
  rw [Text.decimalValue?, found, Option.map_some, zero]
  have small : (character.toNat - 48) % 10 = character.toNat - 48 := Nat.mod_eq_of_lt (by omega)
  rw [small]

theorem isDigit_of_mem_digitsOf {value : Nat} {character : Char}
    (member : character ∈ digitsOf value) : character.isDigit = true := by
  rw [digitsOf, Nat.toList_repr] at member
  exact Nat.isDigit_of_mem_toDigits (by decide) (by decide) member

theorem digitsOf_ne_nil (value : Nat) : digitsOf value ≠ [] := by
  rw [digitsOf, Nat.toList_repr]
  exact Nat.toDigits_ne_nil

theorem placeValues?_digits {digits : Text}
    (areDigits : forall character, character ∈ digits -> character.isDigit = true) :
    placeValues? digits = some (digits.map fun character => character.toNat - '0'.toNat) := by
  induction digits with
  | nil => rfl
  | cons first others inductionHypothesis =>
      have rest := inductionHypothesis fun character member =>
        areDigits character (List.mem_cons_of_mem first member)
      rw [placeValues?] at rest
      rw [placeValues?, List.mapM_cons, rest,
        decimalValue?_of_isDigit (areDigits first List.mem_cons_self)]
      rfl

/-- The digits of a number denote it. -/
theorem ofPlaceValues_digitsOf (value : Nat) :
    ofPlaceValues ((digitsOf value).map fun character => character.toNat - '0'.toNat) =
      value := by
  have denoted : Nat.ofDigitChars 10 (digitsOf value) 0 = value := by
    rw [digitsOf, Nat.toList_repr]
    exact Nat.ofDigitChars_toDigits (by decide) (by decide)
  rw [ofPlaceValues, List.foldl_map, ← Nat.ofDigitChars_eq_foldl, denoted]

/-- A numeral of the digits of a natural number is read as the number nearest to it. -/
theorem readDecimal?_digitsOf (format : Format) (negative : Bool) (value : Nat) :
    readDecimal? format negative (digitsOf value) [] =
      some (Floating.ofRatio negative value 1) := by
  rw [readDecimal?, placeValues?_digits fun _ member => isDigit_of_mem_digitsOf member]
  simp only [placeValues?, List.mapM_nil, Option.pure_def, Option.bind_eq_bind, Option.bind_some,
    List.append_nil, List.length_nil, Nat.pow_zero, ofPlaceValues_digitsOf]

namespace Floating

section Twice

variable {narrow wide : Format}

/-- An integer that the narrow format can represent survives both roundings. -/
theorem convert_ofRatio_integer (within : Format.Within narrow wide) (negative : Bool)
    {value : Nat} (representable : narrow.Representable (value * 2 ^ narrow.places)) :
    (ofRatio negative value 1 : Floating wide).convert narrow =
      .finite negative ⟨_, representable⟩ := by
  have inWide := within.representable_integer representable
  have exact_ : (ofRatio negative value 1 : Floating wide) = .finite negative ⟨_, inWide⟩ :=
    ofSteps_one negative ⟨_, inWide⟩
  rw [exact_, convert]
  dsimp only
  rw [Nat.mul_right_comm]
  exact ofSteps_exact negative ⟨_, representable⟩ (Nat.two_pow_pos _)

end Twice

variable {format : Format}

/-- The number with positive zero in place of negative zero. -/
def withoutNegativeZero (number : Floating format) : Floating format :=
  if number = zero.negate then zero else number

/-- Whether the value of a number is an integer of at most sixteen digits. -/
def IsShortInteger (number : Floating format) : Prop :=
  ∃ integer : Int, number.amount? = some (integer * format.unit) ∧
    integer.natAbs < 10 ^ (16 : Nat)

/-- The sign and the magnitude of a number whose value is an integer. -/
theorem eq_finite_of_amount? {number : Floating format} {integer : Int}
    (amount : number.amount? = some (integer * format.unit)) :
    ∃ negative representable,
      number = .finite negative ⟨integer.natAbs * 2 ^ format.places, representable⟩ ∧
        integer = if negative then -(integer.natAbs : Int) else integer.natAbs := by
  rcases exists_magnitude_of_amount? amount with ⟨negative, ⟨steps, representable⟩, rfl, value⟩
  have size : steps = integer.natAbs * 2 ^ format.places := by
    have sizes := congrArg Int.natAbs value
    rw [Int.natAbs_mul, Format.unit, Int.natAbs_natCast, signed] at sizes
    rw [sizes]
    split <;> simp
  subst size
  refine ⟨negative, representable, rfl, ?_⟩
  have unitPositive : format.unit ≠ 0 := by
    have positive := Nat.two_pow_pos format.places
    rw [Format.unit]
    omega
  apply Int.eq_of_mul_eq_mul_right unitPositive
  rw [value, signed, Int.natCast_mul]
  split
  · exact (Int.neg_mul _ _).symm
  · rfl

/-- An integer below ten to the sixteenth is written in digits. -/
theorem numeral_of_amount? {number : Floating format} {integer : Int}
    (amount : number.amount? = some (integer * format.unit))
    (short : integer.natAbs < 10 ^ (16 : Nat)) : number.numeral = integerNumeral integer := by
  rcases eq_finite_of_amount? amount with ⟨negative, representable, rfl, signs⟩
  have whole : integer.natAbs * 2 ^ format.places % 2 ^ format.places = 0 := Nat.mul_mod_left _ _
  have few : integer.natAbs * 2 ^ format.places <
      10 ^ (16 : Nat) * 2 ^ format.places :=
    Nat.mul_lt_mul_of_pos_right short (Nat.two_pow_pos _)
  have written : (decide (integer.natAbs * 2 ^ format.places % 2 ^ format.places = 0) &&
      decide (integer.natAbs * 2 ^ format.places <
        10 ^ (16 : Nat) * 2 ^ format.places)) = true := by
    rw [decide_eq_true whole, decide_eq_true few]
    rfl
  rw [numeral]
  dsimp only
  rw [if_pos written, Nat.mul_div_cancel _ (Nat.two_pow_pos _)]
  exact congrArg integerNumeral signs.symm

/-- A number comes back from its integer, apart from the sign of zero. -/
theorem convert_ofInt {wide : Format} (within : Format.Within format wide)
    {number : Floating format} {integer : Int}
    (amount : number.amount? = some (integer * format.unit)) :
    (ofInt integer : Floating wide).convert format = number.withoutNegativeZero := by
  rcases eq_finite_of_amount? amount with ⟨negative, representable, rfl, signs⟩
  rw [ofInt, convert_ofRatio_integer within _ representable, withoutNegativeZero, zero_eq, negate]
  by_cases none : integer = 0
  · subst none
    cases negative <;> simp
  · have nonzero : integer.natAbs * 2 ^ format.places ≠ 0 :=
      Nat.mul_ne_zero (Int.natAbs_ne_zero.mpr none) (Nat.pos_iff_ne_zero.mp (Nat.two_pow_pos _))
    have sign : decide (integer < 0) = negative := by
      cases negative with
      | true => rw [if_pos rfl] at signs; exact decide_eq_true (by omega)
      | false => rw [if_neg Bool.false_ne_true] at signs; exact decide_eq_false (by omega)
    rw [if_neg, sign]
    intro same
    rw [finite.injEq, Magnitude.mk.injEq] at same
    exact nonzero same.2

end Floating

end Number
end SequenceCalculator
