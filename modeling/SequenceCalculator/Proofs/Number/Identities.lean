import SequenceCalculator.Number.Folds

namespace SequenceCalculator
namespace Number

/-!
# Arithmetic that changes nothing

Rounding leaves alone what the format can represent already.  So nothing added, nothing
subtracted, one times a number and a number over one are that number again, and a number
comes back unchanged from a format with more room.  Of one number, every operator
therefore makes that number.

There is one exception.  A sum starts at positive zero, and added to that, negative zero
is lost.
-/

theorem nearest_mul {denominator : Nat} (positive : 0 < denominator) (count : Nat) :
    nearest (count * denominator) denominator = count := by
  rw [nearest]
  simp only [Nat.mul_mod_left, Nat.mul_zero, if_pos positive]
  exact Nat.mul_div_cancel count positive

namespace Format

theorem snap_of_divisible (format : Format) {steps denominator : Nat}
    (divisible : 2 ^ format.excess steps ∣ steps) (positive : 0 < denominator) :
    format.snap (steps * denominator) denominator = steps := by
  rcases divisible with ⟨count, isMultiple⟩
  rw [snap, Nat.mul_div_cancel steps positive]
  generalize 2 ^ format.excess steps = step at isMultiple
  subst isMultiple
  rcases Nat.eq_zero_or_pos step with rfl | stepPositive
  · simp
  · have same : step * count * denominator = count * (denominator * step) := by
      rw [Nat.mul_comm step count, Nat.mul_assoc, Nat.mul_comm step denominator]
    rw [same, nearest_mul (Nat.mul_pos positive stepPositive), Nat.mul_comm]

theorem representable_zero (format : Format) : format.Representable 0 :=
  ⟨Nat.dvd_zero _, Nat.two_pow_pos _⟩

theorem representable_one {format : Format} (above : format.places < format.ceiling) :
    format.Representable (2 ^ format.places) where
  divisible := by
    have divisible : 2 ^ format.excess (1 * 2 ^ format.places) ∣ 1 * 2 ^ format.places :=
      format.divisible_of_copies Nat.one_le_two_pow
    rwa [Nat.one_mul] at divisible
  bounded := Nat.pow_lt_pow_right (by decide) above

/-- Another format has room for all magnitudes of a format. -/
structure Within (narrow wide : Format) : Prop where
  precision : narrow.precision ≤ wide.precision
  places : narrow.places ≤ wide.places
  ceiling : narrow.ceiling + (wide.places - narrow.places) ≤ wide.ceiling

theorem single_within_double : Within .single .double := by
  constructor <;> decide

/-- The same magnitude, counted in smaller steps. -/
theorem Within.representable {narrow wide : Format} (within : Within narrow wide) {steps : Nat}
    (representable : narrow.Representable steps) :
    wide.Representable (steps * 2 ^ (wide.places - narrow.places)) where
  divisible := by
    by_cases none : steps = 0
    · simp [none]
    · have below : steps * 2 ^ (wide.places - narrow.places) <
          2 ^ (steps.log2 + 1 + (wide.places - narrow.places)) := by
        rw [Nat.pow_add]
        exact Nat.mul_lt_mul_of_pos_right Nat.lt_log2_self (Nat.two_pow_pos _)
      have nonzero : steps * 2 ^ (wide.places - narrow.places) ≠ 0 :=
        Nat.mul_ne_zero none (Nat.pos_iff_ne_zero.mp (Nat.two_pow_pos _))
      have size := (Nat.log2_lt nonzero).mpr below
      have fewer : wide.excess (steps * 2 ^ (wide.places - narrow.places)) ≤
          narrow.excess steps + (wide.places - narrow.places) := by
        have precision := within.precision
        unfold excess
        omega
      apply Nat.dvd_trans (Nat.pow_dvd_pow 2 fewer)
      rw [Nat.pow_add]
      exact Nat.mul_dvd_mul_right representable.divisible _
  bounded := by
    have below : steps * 2 ^ (wide.places - narrow.places) <
        2 ^ (narrow.ceiling + (wide.places - narrow.places)) := by
      rw [Nat.pow_add]
      exact Nat.mul_lt_mul_of_pos_right representable.bounded (Nat.two_pow_pos _)
    exact Nat.lt_of_lt_of_le below (Nat.pow_le_pow_right (by decide) within.ceiling)

end Format

namespace Floating

variable {format : Format}

/-- What is a magnitude of the format already is not rounded. -/
theorem ofSteps_exact (negative : Bool) (magnitude : Magnitude format) {denominator : Nat}
    (positive : 0 < denominator) :
    ofSteps negative (magnitude.steps * denominator) denominator =
      .finite negative magnitude := by
  have same := format.snap_of_divisible magnitude.representable.divisible positive
  rw [ofSteps, dif_pos (by rw [same]; exact magnitude.representable.bounded)]
  congr 1
  simp only [same]

theorem ofSteps_one (negative : Bool) (magnitude : Magnitude format) :
    ofSteps negative magnitude.steps 1 = .finite negative magnitude := by
  have exact_ := ofSteps_exact negative magnitude Nat.zero_lt_one
  rwa [Nat.mul_one] at exact_

theorem zero_eq : (zero : Floating format) = .finite false ⟨0, format.representable_zero⟩ := by
  have exact_ := ofSteps_one false ⟨0, format.representable_zero⟩
  rw [zero, ofInt, ofRatio, ← exact_]
  simp

theorem one_eq (above : format.places < format.ceiling) :
    (one : Floating format) = .finite false ⟨_, Format.representable_one above⟩ := by
  have exact_ := ofSteps_one false ⟨_, Format.representable_one above⟩
  rw [one, ofInt, ofRatio, ← exact_]
  simp

/-- A number of the format is not rounded on its way to the format. -/
theorem convert_self (value : Floating format) : value.convert format = value := by
  cases value with
  | nan => rfl
  | infinite negative => rfl
  | finite negative magnitude => exact ofSteps_exact negative magnitude (Nat.two_pow_pos _)

section Conversion

variable {narrow wide : Format} (within : Format.Within narrow wide)
include within

theorem convert_finite (negative : Bool) (magnitude : Magnitude narrow) :
    (finite negative magnitude).convert wide =
      .finite negative ⟨_, within.representable magnitude.representable⟩ := by
  have same : magnitude.steps * 2 ^ wide.places =
      magnitude.steps * 2 ^ (wide.places - narrow.places) * 2 ^ narrow.places := by
    rw [Nat.mul_assoc, ← Nat.pow_add, Nat.sub_add_cancel within.places]
  rw [convert, same]
  exact ofSteps_exact negative ⟨_, within.representable magnitude.representable⟩
    (Nat.two_pow_pos _)

/-- A number comes back unchanged from a format with room for it. -/
theorem convert_convert (value : Floating narrow) :
    (value.convert wide).convert narrow = value := by
  cases value with
  | nan => rfl
  | infinite negative => rfl
  | finite negative magnitude =>
      have same : magnitude.steps * 2 ^ (wide.places - narrow.places) * 2 ^ narrow.places =
          magnitude.steps * 2 ^ wide.places := by
        rw [Nat.mul_assoc, ← Nat.pow_add, Nat.sub_add_cancel within.places]
      rw [convert_finite within, convert, same]
      exact ofSteps_exact negative magnitude (Nat.two_pow_pos _)

theorem convert_eq_negativeZero {value : Floating narrow}
    (isZero : value.convert wide = zero.negate) : value = zero.negate := by
  cases value with
  | nan => rw [zero_eq] at isZero; cases isZero
  | infinite negative => rw [zero_eq] at isZero; cases isZero
  | finite negative magnitude =>
      rw [convert_finite within, zero_eq, negate, finite.injEq, Magnitude.mk.injEq] at isZero
      rcases magnitude with ⟨steps, representable⟩
      have none : steps = 0 :=
        (Nat.mul_eq_zero.mp isZero.2).resolve_right (Nat.pos_iff_ne_zero.mp (Nat.two_pow_pos _))
      subst none
      rw [isZero.1, zero_eq, negate]

end Conversion

/-- The number that a signed number of steps is rounded to, when the sign of zero is
chosen right. -/
theorem ofSteps_signed (negative zeroSign : Bool) (magnitude : Magnitude format)
    (chosen : magnitude.steps = 0 -> zeroSign = negative) :
    ofSteps (if signed negative magnitude = 0 then zeroSign
        else decide (signed negative magnitude < 0)) (signed negative magnitude).natAbs 1 =
      .finite negative magnitude := by
  have same : (signed negative magnitude).natAbs = magnitude.steps := by
    cases negative <;> simp [signed]
  rw [same, ← ofSteps_one negative magnitude]
  congr 1
  by_cases none : magnitude.steps = 0
  · have isZero : signed negative magnitude = 0 := by simp [signed, none]
    rw [if_pos isZero, chosen none]
  · have notZero : signed negative magnitude ≠ 0 := fun isZero =>
      none (by rw [← same, isZero, Int.natAbs_zero])
    rw [if_neg notZero]
    cases negative with
    | false => simp [signed]
    | true => simpa [signed] using Nat.pos_iff_ne_zero.mpr none

/-- Positive zero with a number added is that number, negative zero apart. -/
theorem zero_add {value : Floating format} (regular : value ≠ zero.negate) :
    zero.add value = value := by
  rw [zero_eq] at regular ⊢
  cases value with
  | nan => rfl
  | infinite negative => rfl
  | finite negative magnitude =>
      have nothing : signed false ⟨0, format.representable_zero⟩ = 0 := rfl
      simp only [add, nothing, Int.zero_add]
      apply ofSteps_signed
      intro none
      rcases magnitude with ⟨steps, representable⟩
      subst none
      cases negative with
      | false => rfl
      | true => exact absurd rfl regular

theorem subtract_zero (value : Floating format) : value.subtract zero = value := by
  rw [subtract, zero_eq]
  cases value with
  | nan => rfl
  | infinite negative => rfl
  | finite negative magnitude =>
      have nothing : signed true ⟨0, format.representable_zero⟩ = 0 := rfl
      simp only [add, negate, Bool.not_false, nothing, Int.add_zero, Bool.and_true]
      exact ofSteps_signed negative negative magnitude fun _ => rfl

section One

variable (above : format.places < format.ceiling)
include above

theorem one_multiply (value : Floating format) : one.multiply value = value := by
  rw [one_eq above]
  cases value with
  | nan => rfl
  | infinite negative => simp [multiply]
  | finite negative magnitude =>
      rw [multiply, Bool.false_bne, Nat.mul_comm]
      exact ofSteps_exact negative magnitude (Nat.two_pow_pos _)

theorem divide_one (value : Floating format) : value.divide one = value := by
  rw [one_eq above]
  cases value with
  | nan => rfl
  | infinite negative => simp [divide]
  | finite negative magnitude =>
      simp only [divide, Bool.bne_false]
      rw [if_neg (Nat.pos_iff_ne_zero.mp (Nat.two_pow_pos _))]
      exact ofSteps_exact negative magnitude (Nat.two_pow_pos _)

end One

end Floating

/-!
## One operand
-/

open Floating Format

theorem foldSum_nil : foldSum ([] : List Single) = zero := by
  decide +kernel

theorem foldProduct_nil : foldProduct ([] : List Single) = one := by
  decide +kernel

/-- The sum of one number is that number, negative zero apart. -/
theorem foldSum_single_iff (number : Single) :
    foldSum [number] = number ↔ number ≠ zero.negate := by
  constructor
  · intro same isZero
    rw [isZero] at same
    exact absurd same (by decide +kernel)
  · intro regular
    have regularWide : number.convert .double ≠ zero.negate := fun isZero =>
      regular (convert_eq_negativeZero single_within_double isZero)
    rw [foldSum, List.foldl_cons, List.foldl_nil, zero_add regularWide,
      convert_convert single_within_double]

theorem foldProduct_single (number : Single) : foldProduct [number] = number := by
  rw [foldProduct, List.foldl_cons, List.foldl_nil, one_multiply (by decide),
    convert_convert single_within_double]

theorem subtractAll_nil (base : Single) : subtractAll base ([] : List Single) = base := by
  rw [subtractAll, foldSum_nil, convert_self, subtract_zero]

theorem quotient_one (base : Single) : quotient base (one : Single) = base := by
  rw [quotient, convert_self, convert_self, divide_one (by decide)]

theorem powerAll_nil (base : Single) : powerAll base ([] : List Single) = base := by
  rw [powerAll, List.foldl_nil, convert_self]

end Number
end SequenceCalculator
