namespace SequenceCalculator
namespace Number

/-!
Rounding of exact quotients to a binary format.

A format is described by the number of significant bits, the size of its
smallest step and its largest magnitude.  Every magnitude of a format is a
whole number of smallest steps, so all finite arithmetic takes place in `Nat`,
and the only inexact operation is `Format.snap`, which moves an exact quotient
of steps to the nearest magnitude of the format.
-/

/-- Powers are those of `Nat`, also where powers in a monoid are known. -/
instance (priority := 2000) naturalPower : Pow Nat Nat := instPowNat

/-- A binary format: magnitudes have `precision` significant bits, the smallest
step is `2 ^ -places`, and magnitudes stay below `2 ^ ceiling` steps. -/
structure Format where
  precision : Nat
  places : Nat
  ceiling : Nat
  precision_pos : 0 < precision

/-- Four-byte numbers: the values programs compute with. -/
def Format.single : Format := ⟨24, 149, 277, by decide⟩

/-- Eight-byte numbers: the accumulators of sums and products. -/
def Format.double : Format := ⟨53, 1074, 2098, by decide⟩

/-- The whole number nearest to a quotient; a tie goes to the even neighbour. -/
def nearest (numerator denominator : Nat) : Nat :=
  let quotient := numerator / denominator
  let remainder := numerator % denominator
  if 2 * remainder < denominator then quotient
  else if denominator < 2 * remainder then quotient + 1
  else quotient + quotient % 2

theorem nearest_le_succ (numerator denominator : Nat) :
    nearest numerator denominator <= numerator / denominator + 1 := by
  unfold nearest
  dsimp only
  split
  · omega
  · split
    · omega
    · omega

namespace Format

/-- How many low bits a magnitude of this size cannot use. -/
def excess (format : Format) (steps : Nat) : Nat :=
  steps.log2 + 1 - format.precision

/-- A number of steps is a magnitude of the format when its unusable low bits
are clear and it stays below the ceiling. -/
structure Representable (format : Format) (steps : Nat) : Prop where
  divisible : 2 ^ format.excess steps ∣ steps
  bounded : steps < 2 ^ format.ceiling

/-- The number of steps with a usable bit pattern that is nearest to an exact
quotient of steps. -/
def snap (format : Format) (numerator denominator : Nat) : Nat :=
  let step := 2 ^ format.excess (numerator / denominator)
  nearest numerator (denominator * step) * step

/-- A quotient without its unusable low bits fits into the significant ones. -/
theorem quotient_lt (format : Format) (quotient : Nat) :
    quotient / 2 ^ format.excess quotient < 2 ^ format.precision := by
  rw [Nat.div_lt_iff_lt_mul (Nat.two_pow_pos _), ← Nat.pow_add]
  have below : quotient < 2 ^ (quotient.log2 + 1) := Nat.lt_log2_self
  apply Nat.lt_of_lt_of_le below
  apply Nat.pow_le_pow_right (by decide)
  unfold excess
  omega

/-- At most `2 ^ precision` copies of one power of two leave the unusable bits
clear. -/
theorem divisible_of_copies (format : Format) {copies shift : Nat}
    (few : copies <= 2 ^ format.precision) :
    2 ^ format.excess (copies * 2 ^ shift) ∣ copies * 2 ^ shift := by
  by_cases full : copies = 2 ^ format.precision
  · rw [full, ← Nat.pow_add]
    apply Nat.pow_dvd_pow
    unfold excess
    rw [Nat.log2_two_pow]
    have := format.precision_pos
    omega
  · by_cases none : copies = 0
    · simp [none]
    · have fewer : copies < 2 ^ format.precision := by omega
      have below : copies * 2 ^ shift < 2 ^ (format.precision + shift) := by
        rw [Nat.pow_add]
        exact Nat.mul_lt_mul_of_pos_right fewer (Nat.two_pow_pos _)
      have nonzero : copies * 2 ^ shift ≠ 0 :=
        Nat.mul_ne_zero none (Nat.pos_iff_ne_zero.mp (Nat.two_pow_pos _))
      have size := (Nat.log2_lt nonzero).mpr below
      have small : format.excess (copies * 2 ^ shift) <= shift := by
        unfold excess
        omega
      exact Nat.dvd_trans (Nat.pow_dvd_pow 2 small) (Nat.dvd_mul_left _ _)

/-- Snapping always clears the unusable bits. -/
theorem snap_divisible (format : Format) (numerator denominator : Nat) :
    2 ^ format.excess (format.snap numerator denominator) ∣
      format.snap numerator denominator := by
  apply divisible_of_copies
  apply Nat.le_trans (nearest_le_succ _ _)
  rw [← Nat.div_div_eq_div_mul]
  exact quotient_lt format _

end Format

end Number
end SequenceCalculator
