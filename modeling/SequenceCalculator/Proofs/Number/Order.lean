import SequenceCalculator.Proofs.Number.Identities

namespace SequenceCalculator
namespace Number

/-!
# Rounding keeps the order

A greater quotient is never rounded to a smaller magnitude.  Where both are rounded
at the same bit this is a matter of the nearest whole number; otherwise a power of two
lies between the two results.

An integer becomes a number of a program in two roundings, first to double and then to
single precision.  Both keep the order, so the integers below one that single precision
can represent stay below it.  An integer that it can represent is not rounded at all;
these are all integers up to two to the twenty-fourth, and the integer part of every
number.
-/

theorem le_nearest (numerator denominator : Nat) :
    numerator / denominator ≤ nearest numerator denominator := by
  unfold nearest
  dsimp only
  split
  · omega
  · split
    · omega
    · omega

theorem nearest_mono {numerator greater : Nat} (denominator : Nat)
    (ordered : numerator ≤ greater) :
    nearest numerator denominator ≤ nearest greater denominator := by
  rcases Nat.lt_or_ge (numerator / denominator) (greater / denominator) with apart | close
  · calc nearest numerator denominator
        ≤ numerator / denominator + 1 := nearest_le_succ _ _
      _ ≤ greater / denominator := apart
      _ ≤ nearest greater denominator := le_nearest _ _
  · -- The quotients are the same, so the remainders are in order.
    have same : numerator / denominator = greater / denominator :=
      Nat.le_antisymm (Nat.div_le_div_right ordered) close
    have first := Nat.div_add_mod numerator denominator
    have second := Nat.div_add_mod greater denominator
    rw [same] at first
    unfold nearest
    rw [same]
    dsimp only
    repeat' split
    all_goals omega

namespace Format

theorem log2_mono {steps greater : Nat} (ordered : steps ≤ greater) :
    steps.log2 ≤ greater.log2 := by
  rcases Nat.eq_zero_or_pos steps with rfl | positive
  · simp
  · have nonzero : greater ≠ 0 := by omega
    exact (Nat.le_log2 nonzero).mpr
      (Nat.le_trans (Nat.log2_self_le (Nat.pos_iff_ne_zero.mp positive)) ordered)

theorem excess_mono (format : Format) {steps greater : Nat} (ordered : steps ≤ greater) :
    format.excess steps ≤ format.excess greater := by
  have sizes := log2_mono ordered
  unfold excess
  omega

theorem snap_le (format : Format) (numerator denominator : Nat) :
    format.snap numerator denominator ≤
      2 ^ (format.precision + format.excess (numerator / denominator)) := by
  have few : nearest numerator (denominator * 2 ^ format.excess (numerator / denominator)) ≤
      2 ^ format.precision := by
    apply Nat.le_trans (nearest_le_succ _ _)
    rw [← Nat.div_div_eq_div_mul]
    exact format.quotient_lt _
  rw [snap, Nat.pow_add]
  exact Nat.mul_le_mul_right _ few

/-- What has unusable bits is at least the least number of its size. -/
theorem le_snap (format : Format) {numerator denominator : Nat}
    (rounds : 0 < format.excess (numerator / denominator)) :
    2 ^ (format.precision + format.excess (numerator / denominator) - 1) ≤
      format.snap numerator denominator := by
  have precise := format.precision_pos
  generalize quotient_eq : numerator / denominator = quotient at rounds
  have size : quotient.log2 = format.precision - 1 + format.excess quotient := by
    unfold excess at rounds ⊢
    omega
  have nonzero : quotient ≠ 0 := by
    rintro rfl
    unfold excess at rounds
    simp at rounds
    omega
  have least : 2 ^ (format.precision - 1) * 2 ^ format.excess quotient ≤ quotient := by
    rw [← Nat.pow_add, ← size]
    exact Nat.log2_self_le nonzero
  have kept : 2 ^ (format.precision - 1) ≤
      nearest numerator (denominator * 2 ^ format.excess quotient) := by
    apply Nat.le_trans _ (le_nearest _ _)
    rw [← Nat.div_div_eq_div_mul, quotient_eq]
    exact (Nat.le_div_iff_mul_le (Nat.two_pow_pos _)).mpr least
  have exponent : format.precision + format.excess quotient - 1 =
      format.precision - 1 + format.excess quotient := by omega
  rw [snap, quotient_eq, exponent, Nat.pow_add]
  exact Nat.mul_le_mul_right _ kept

/-- A greater quotient is never rounded to a smaller magnitude. -/
theorem snap_mono (format : Format) {numerator greater : Nat} (denominator : Nat)
    (ordered : numerator ≤ greater) :
    format.snap numerator denominator ≤ format.snap greater denominator := by
  have quotients : numerator / denominator ≤ greater / denominator :=
    Nat.div_le_div_right ordered
  rcases Nat.lt_or_ge (format.excess (numerator / denominator))
      (format.excess (greater / denominator)) with apart | close
  · calc format.snap numerator denominator
        ≤ 2 ^ (format.precision + format.excess (numerator / denominator)) :=
          format.snap_le _ _
      _ ≤ 2 ^ (format.precision + format.excess (greater / denominator) - 1) :=
          Nat.pow_le_pow_right (by decide) (by omega)
      _ ≤ format.snap greater denominator := format.le_snap (by omega)
  · have same : format.excess (numerator / denominator) =
        format.excess (greater / denominator) :=
      Nat.le_antisymm (format.excess_mono quotients) close
    unfold snap
    rw [same]
    exact Nat.mul_le_mul_right _ (nearest_mono _ ordered)

/-- The whole steps of one in a magnitude are a magnitude again. -/
theorem Representable.whole {format : Format} {steps : Nat}
    (representable : format.Representable steps) :
    format.Representable (steps / 2 ^ format.places * 2 ^ format.places) where
  divisible := by
    rcases Nat.lt_or_ge (format.excess steps) format.places with fractional | integral
    · -- There are no more than `precision` bits in front of the point.
      apply format.divisible_of_copies
      have small : steps < 2 ^ (format.precision + format.places) := by
        apply Nat.lt_of_lt_of_le (Nat.lt_log2_self (n := steps))
        apply Nat.pow_le_pow_right (by decide)
        unfold excess at fractional
        omega
      rw [Nat.pow_add] at small
      exact Nat.le_of_lt (Nat.div_lt_of_lt_mul (by rwa [Nat.mul_comm]))
    · -- There are no bits behind the point.
      have divides := Nat.dvd_trans (Nat.pow_dvd_pow 2 integral) representable.divisible
      rw [Nat.div_mul_cancel divides]
      exact representable.divisible
  bounded := Nat.lt_of_le_of_lt (Nat.div_mul_le_self _ _) representable.bounded

end Format

namespace Floating

variable {format : Format}

/-- The value of a finite number: how many smallest steps it lies above zero. -/
def amount? : Floating format -> Option Int
  | .finite negative magnitude => some (signed negative magnitude)
  | _ => none

theorem exists_magnitude_of_amount? {number : Floating format} {amount : Int}
    (finite : number.amount? = some amount) : ∃ negative magnitude,
      number = .finite negative magnitude ∧ amount = signed negative magnitude := by
  cases number with
  | nan => cases finite
  | infinite negative => cases finite
  | finite negative magnitude =>
      cases finite
      exact ⟨negative, magnitude, rfl, rfl⟩

end Floating

/-- How many smallest steps lie between zero and one. -/
def Format.unit (format : Format) : Int := (2 ^ format.places : Nat)

/-!
## Integers that are rounded twice
-/

section Twice

variable {narrow wide : Format}

/-- How many steps a natural number has when it is rounded to a wide and then to a
narrow format. -/
def twiceRounded (narrow wide : Format) (value : Nat) : Nat :=
  narrow.snap (wide.snap (value * 2 ^ wide.places) 1 * 2 ^ narrow.places) (2 ^ wide.places)

theorem twiceRounded_mono {value greater : Nat} (ordered : value ≤ greater) :
    twiceRounded narrow wide value ≤ twiceRounded narrow wide greater :=
  narrow.snap_mono _ (Nat.mul_le_mul_right _
    (wide.snap_mono _ (Nat.mul_le_mul_right _ ordered)))

/-- The value of an integer that is rounded to a wide and then to a narrow format. -/
def integerAmount (narrow wide : Format) (integer : Int) : Int :=
  if integer < 0 then -(twiceRounded narrow wide integer.natAbs : Int)
  else twiceRounded narrow wide integer.natAbs

theorem integerAmount_mono {integer greater : Int} (ordered : integer ≤ greater) :
    integerAmount narrow wide integer ≤ integerAmount narrow wide greater := by
  unfold integerAmount
  by_cases negative : integer < 0
  · by_cases alsoNegative : greater < 0
    · have sizes := @twiceRounded_mono narrow wide greater.natAbs integer.natAbs (by omega)
      rw [if_pos negative, if_pos alsoNegative]
      omega
    · rw [if_pos negative, if_neg alsoNegative]
      omega
  · have sizes := @twiceRounded_mono narrow wide integer.natAbs greater.natAbs (by omega)
    rw [if_neg negative, if_neg (by omega)]
    omega

variable (within : Format.Within narrow wide) {value : Nat}
  (representable : narrow.Representable (value * 2 ^ narrow.places))
include within representable

/-- What the narrow format can represent is exact in the wide one as well. -/
theorem Format.Within.representable_integer :
    wide.Representable (value * 2 ^ wide.places) := by
  have inWide := within.representable representable
  rwa [Nat.mul_assoc, ← Nat.pow_add, Nat.add_sub_cancel' within.places] at inWide

theorem snap_integer : wide.snap (value * 2 ^ wide.places) 1 = value * 2 ^ wide.places := by
  have exact_ := wide.snap_of_divisible
    (within.representable_integer representable).divisible Nat.zero_lt_one
  rwa [Nat.mul_one] at exact_

/-- An integer that the narrow format can represent is not rounded. -/
theorem twiceRounded_eq : twiceRounded narrow wide value = value * 2 ^ narrow.places := by
  rw [twiceRounded, snap_integer within representable, Nat.mul_right_comm]
  exact narrow.snap_of_divisible representable.divisible (Nat.two_pow_pos _)

/-- An integer that is no greater than one that the narrow format can represent
becomes a finite number. -/
theorem amount?_of_le {integer : Int} (bounded : integer.natAbs ≤ value) :
    ((Floating.ofInt integer : Floating wide).convert narrow).amount? =
      some (integerAmount narrow wide integer) := by
  have wideBounded : wide.snap (integer.natAbs * 2 ^ wide.places) 1 < 2 ^ wide.ceiling := by
    apply Nat.lt_of_le_of_lt (wide.snap_mono 1 (Nat.mul_le_mul_right _ bounded))
    rw [snap_integer within representable]
    exact (within.representable_integer representable).bounded
  have narrowBounded : twiceRounded narrow wide integer.natAbs < 2 ^ narrow.ceiling := by
    apply Nat.lt_of_le_of_lt (twiceRounded_mono bounded)
    rw [twiceRounded_eq within representable]
    exact representable.bounded
  unfold twiceRounded at narrowBounded
  simp only [Floating.ofInt, Floating.ofRatio, Floating.ofSteps, dif_pos wideBounded,
    Floating.convert, dif_pos narrowBounded, Floating.amount?, Floating.signed, integerAmount,
    twiceRounded, decide_eq_true_eq]

/-- The exact value of an integer that the narrow format can represent. -/
theorem integerAmount_eq {integer : Int} (same : integer.natAbs = value) :
    integerAmount narrow wide integer = integer * narrow.unit := by
  subst same
  have size : (twiceRounded narrow wide integer.natAbs : Int) =
      integer.natAbs * narrow.unit := by
    rw [twiceRounded_eq within representable, Int.natCast_mul, Format.unit]
  rw [integerAmount, size]
  split
  · next negative =>
    rw [Int.ofNat_natAbs_of_nonpos (Int.le_of_lt negative), Int.neg_mul, Int.neg_neg]
  · next notNegative => rw [Int.natAbs_of_nonneg (Int.not_lt.mp notNegative)]

end Twice

/-- Single precision can represent the integers up to two to the twenty-fourth. -/
theorem representable_of_le {value : Nat} (small : value ≤ 2 ^ Format.single.precision) :
    Format.single.Representable (value * 2 ^ Format.single.places) where
  divisible := Format.single.divisible_of_copies small
  bounded := by
    calc value * 2 ^ Format.single.places
        ≤ 2 ^ Format.single.precision * 2 ^ Format.single.places :=
          Nat.mul_le_mul_right _ small
      _ = 2 ^ (Format.single.precision + Format.single.places) := (Nat.pow_add _ _ _).symm
      _ < 2 ^ Format.single.ceiling := Nat.pow_lt_pow_right (by decide) (by decide)

end Number
end SequenceCalculator
