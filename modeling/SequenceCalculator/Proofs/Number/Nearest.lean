import SequenceCalculator.Proofs.Number.Order

namespace SequenceCalculator
namespace Number

/-!
# Rounding to the nearest number

What a format makes of an exact quotient is the nearest number of steps with a usable bit
pattern, and of two that are equally near the one whose last usable bit is clear.  There is
only one such number, so this describes rounding completely.  The format's largest
magnitude does not matter to it: where the nearest number of steps lies beyond that, the
quotient is rounded to an infinity.
-/

/-- How far a number of steps is away from an exact quotient, in parts of its
denominator. -/
def distance (steps numerator denominator : Nat) : Nat :=
  ((steps * denominator : Nat) - (numerator : Int)).natAbs

/-- A whole number is one of the two around a quotient or at least one further away. -/
theorem product_cases (count quotient denominator : Nat) :
    count * denominator + denominator ≤ quotient * denominator ∨ count = quotient ∨
      count = quotient + 1 ∨ quotient * denominator + 2 * denominator ≤ count * denominator := by
  rcases Nat.lt_or_ge count quotient with below | above
  · have product := Nat.mul_le_mul_right denominator (Nat.succ_le_of_lt below)
    rw [Nat.succ_mul] at product
    exact .inl product
  · rcases Nat.lt_or_ge count (quotient + 2) with close | far
    · exact .inr ((show count = quotient ∨ count = quotient + 1 by omega).imp_right .inl)
    · have product := Nat.mul_le_mul_right denominator far
      rw [Nat.add_mul] at product
      exact .inr (.inr (.inr product))

/-- No whole number is nearer to a quotient than the nearest, and where another one is as
near, the nearest is even. -/
theorem nearest_closest (numerator : Nat) {denominator : Nat} (positive : 0 < denominator)
    (count : Nat) :
    distance (nearest numerator denominator) numerator denominator ≤
        distance count numerator denominator ∧
      (count ≠ nearest numerator denominator ->
        distance count numerator denominator =
          distance (nearest numerator denominator) numerator denominator ->
        2 ∣ nearest numerator denominator) := by
  have divided := Nat.div_add_mod' numerator denominator
  have remains := Nat.mod_lt numerator positive
  unfold nearest distance
  generalize numerator / denominator = quotient at divided
  generalize numerator % denominator = remainder at divided remains
  have cases := product_cases count quotient denominator
  have next : (quotient + 1) * denominator = quotient * denominator + denominator :=
    Nat.succ_mul quotient denominator
  dsimp only
  split
  · next below =>
    rcases cases with _ | rfl | rfl | _ <;> omega
  · split
    · next above =>
      rcases cases with _ | rfl | rfl | _ <;> omega
    · rcases Nat.mod_two_eq_zero_or_one quotient with even | odd
      · rw [even, Nat.add_zero]
        rcases cases with _ | rfl | rfl | _ <;> omega
      · rw [odd]
        rcases cases with _ | rfl | rfl | _ <;> omega

/-- Steps in bundles are as far away from a quotient as the bundles are from one that is
counted in bundles. -/
theorem distance_mul (count step numerator denominator : Nat) :
    distance (count * step) numerator denominator =
      distance count numerator (denominator * step) := by
  rw [distance, distance, Nat.mul_assoc, Nat.mul_comm step denominator]

section Distances

variable {numerator denominator : Nat} (positive : 0 < denominator)
include positive

/-- Below a quotient, what is less is further away. -/
theorem distance_lt_of_lt {steps other : Nat} (less : steps < other)
    (below : other ≤ numerator / denominator) :
    distance other numerator denominator < distance steps numerator denominator := by
  have products := Nat.mul_lt_mul_of_pos_right less positive
  have within := (Nat.le_div_iff_mul_le positive).mp below
  unfold distance
  omega

/-- Between two numbers that are equally far away everything is nearer. -/
theorem distance_lt_of_between {steps between other : Nat} (less : steps < between)
    (alsoLess : between < other)
    (same : distance steps numerator denominator = distance other numerator denominator) :
    distance between numerator denominator < distance steps numerator denominator := by
  have products := Nat.mul_lt_mul_of_pos_right less positive
  have alsoProducts := Nat.mul_lt_mul_of_pos_right alsoLess positive
  unfold distance at same ⊢
  omega

end Distances

namespace Format

/-- The usable number of steps that is nearest to an exact quotient of steps.  Where
another one is as near, its own last usable bit is clear. -/
structure IsNearest (format : Format) (numerator denominator steps : Nat) : Prop where
  usable : 2 ^ format.excess steps ∣ steps
  closest : forall other, 2 ^ format.excess other ∣ other ->
    distance steps numerator denominator ≤ distance other numerator denominator
  even : forall other, 2 ^ format.excess other ∣ other -> other ≠ steps ->
    distance other numerator denominator = distance steps numerator denominator ->
    2 ^ (format.excess steps + 1) ∣ steps

variable (format : Format)

/-- What is usable is a multiple of the bits that a quotient cannot use, or a smaller number
than one that is such a multiple and still below the quotient. -/
theorem usable_cases (quotient : Nat) {other : Nat} (usable : 2 ^ format.excess other ∣ other) :
    2 ^ format.excess quotient ∣ other ∨ ∃ count,
      other < count * 2 ^ format.excess quotient ∧
        count * 2 ^ format.excess quotient ≤ quotient := by
  rcases Nat.lt_or_ge (format.excess other) (format.excess quotient) with fewer | enough
  · have precise := format.precision_pos
    have size : quotient.log2 = format.precision - 1 + format.excess quotient := by
      unfold excess at fewer ⊢
      omega
    have nonzero : quotient ≠ 0 := by
      rintro rfl
      unfold excess at fewer
      simp at fewer
      omega
    refine .inr ⟨2 ^ (format.precision - 1), ?_, ?_⟩
    · rw [← Nat.pow_add, ← size]
      apply Nat.lt_of_lt_of_le (Nat.lt_log2_self (n := other))
      apply Nat.pow_le_pow_right (by decide)
      unfold excess at fewer
      omega
    · rw [← Nat.pow_add, ← size]
      exact Nat.log2_self_le nonzero
  · exact .inl (Nat.dvd_trans (Nat.pow_dvd_pow 2 enough) usable)

/-- An even number of copies of a power of two leaves the last usable bit clear. -/
theorem even_of_copies (precise : 1 < format.precision) {copies shift : Nat}
    (few : copies ≤ 2 ^ format.precision) (even : 2 ∣ copies) :
    2 ^ (format.excess (copies * 2 ^ shift) + 1) ∣ copies * 2 ^ shift := by
  rcases even with ⟨half, rfl⟩
  have same : 2 * half * 2 ^ shift = half * 2 ^ (shift + 1) := by
    rw [Nat.pow_succ, Nat.mul_comm 2 half, Nat.mul_assoc, Nat.mul_comm 2 (2 ^ shift)]
  rw [same]
  -- With one significant bit less the last usable bit is an unusable one.
  let coarser : Format := { format with
    precision := format.precision - 1, precision_pos := Nat.sub_pos_of_lt precise }
  have fewHalves : half ≤ 2 ^ coarser.precision := by
    have whole : 2 ^ format.precision = 2 ^ (format.precision - 1 + 1) := by
      rw [Nat.sub_add_cancel (Nat.le_of_lt precise)]
    rw [whole, Nat.pow_succ'] at few
    exact Nat.le_of_mul_le_mul_left few (by decide)
  have clear : 2 ^ coarser.excess (half * 2 ^ (shift + 1)) ∣ half * 2 ^ (shift + 1) :=
    coarser.divisible_of_copies fewHalves
  rcases Nat.eq_zero_or_pos (format.excess (half * 2 ^ (shift + 1))) with none | some
  · rw [none]
    exact Nat.dvd_trans (Nat.pow_dvd_pow 2 (Nat.le_add_left 1 shift)) (Nat.dvd_mul_left _ _)
  · refine Nat.dvd_trans (Nat.pow_dvd_pow 2 ?_) clear
    have fewer : coarser.precision = format.precision - 1 := rfl
    unfold excess at some ⊢
    omega

theorem isNearest_snap (precise : 1 < format.precision) (numerator : Nat) {denominator : Nat}
    (positive : 0 < denominator) :
    format.IsNearest numerator denominator (format.snap numerator denominator) := by
  have step : 0 < denominator * 2 ^ format.excess (numerator / denominator) :=
    Nat.mul_pos positive (Nat.two_pow_pos _)
  have snapped : distance (format.snap numerator denominator) numerator denominator =
      distance (nearest numerator (denominator * 2 ^ format.excess (numerator / denominator)))
        numerator (denominator * 2 ^ format.excess (numerator / denominator)) :=
    distance_mul _ _ _ _
  have multiple (count : Nat) :
      distance (format.snap numerator denominator) numerator denominator ≤
        distance (count * 2 ^ format.excess (numerator / denominator)) numerator denominator := by
    rw [snapped, distance_mul]
    exact (nearest_closest numerator step count).1
  refine ⟨format.snap_divisible _ _, fun other usable => ?_, fun other usable different same => ?_⟩
  · rcases format.usable_cases (numerator / denominator) usable with
      ⟨count, rfl⟩ | ⟨count, less, below⟩
    · rw [Nat.mul_comm]
      exact multiple count
    · exact Nat.le_trans (multiple count) (Nat.le_of_lt (distance_lt_of_lt positive less below))
  · rcases format.usable_cases (numerator / denominator) usable with
      ⟨count, rfl⟩ | ⟨count, less, below⟩
    · rw [Nat.mul_comm] at different same
      rw [snapped, distance_mul] at same
      have even := (nearest_closest numerator step count).2
        (fun equal => different (congrArg (· * _) equal)) same
      refine format.even_of_copies precise ?_ even
      apply Nat.le_trans (nearest_le_succ _ _)
      rw [← Nat.div_div_eq_div_mul]
      exact format.quotient_lt _
    · have nearer := distance_lt_of_lt positive less below
      exact absurd (multiple count) (by omega)

/-- The usable number of steps behind another one. -/
theorem usable_next {steps : Nat} (usable : 2 ^ format.excess steps ∣ steps) :
    2 ^ format.excess (steps + 2 ^ format.excess steps) ∣ steps + 2 ^ format.excess steps := by
  have next : steps + 2 ^ format.excess steps =
      (steps / 2 ^ format.excess steps + 1) * 2 ^ format.excess steps := by
    rw [Nat.add_mul, Nat.div_mul_cancel usable, Nat.one_mul]
  rw [next]
  exact format.divisible_of_copies (format.quotient_lt steps)

/-- Of two different numbers of steps only one is nearest.  Either a nearer one lies between
them, or they are neighbours, and then the last usable bit of only one of them is clear. -/
theorem IsNearest.not_lt {format : Format} {numerator denominator steps other : Nat}
    (positive : 0 < denominator) (first : format.IsNearest numerator denominator steps)
    (second : format.IsNearest numerator denominator other) : ¬ steps < other := by
  intro less
  have same : distance steps numerator denominator = distance other numerator denominator :=
    Nat.le_antisymm (first.closest other second.usable) (second.closest steps first.usable)
  have finer := format.excess_mono (Nat.le_of_lt less)
  have isMultiple := Nat.dvd_trans (Nat.pow_dvd_pow 2 finer) second.usable
  have apart : 2 ^ format.excess steps ≤ other - steps :=
    Nat.le_of_dvd (Nat.sub_pos_of_lt less) (Nat.dvd_sub isMultiple first.usable)
  rcases Nat.lt_or_ge (steps + 2 ^ format.excess steps) other with between | close
  · have nearer := distance_lt_of_between positive
      (Nat.lt_add_of_pos_right (Nat.two_pow_pos _)) between same
    exact absurd (first.closest _ (format.usable_next first.usable)) (Nat.not_le.mpr nearer)
  · have even := first.even other second.usable (Nat.ne_of_gt less) same.symm
    have alsoEven := second.even steps first.usable (Nat.ne_of_lt less) same
    have difference := Nat.dvd_sub
      (Nat.dvd_trans (Nat.pow_dvd_pow 2 (Nat.succ_le_succ finer)) alsoEven) even
    have neighbour : other - steps = 2 ^ format.excess steps := by omega
    rw [neighbour] at difference
    exact Nat.not_succ_le_self _ ((Nat.pow_dvd_pow_iff_le_right (by decide)).mp difference)

theorem IsNearest.unique {format : Format} {numerator denominator steps other : Nat}
    (positive : 0 < denominator) (first : format.IsNearest numerator denominator steps)
    (second : format.IsNearest numerator denominator other) : steps = other :=
  Nat.le_antisymm (Nat.not_lt.mp (second.not_lt positive first))
    (Nat.not_lt.mp (first.not_lt positive second))

end Format

namespace Floating

variable {format : Format}

/-- The number that an exact quotient is rounded to: the nearest one, or an infinity where
the nearest number of steps lies beyond the format's magnitudes. -/
inductive RoundsTo (negative : Bool) (numerator denominator : Nat) : Floating format -> Prop where
  | finite {magnitude : Magnitude format}
      (nearest : format.IsNearest (numerator * 2 ^ format.places) denominator magnitude.steps) :
      RoundsTo negative numerator denominator (.finite negative magnitude)
  | infinite {steps : Nat}
      (nearest : format.IsNearest (numerator * 2 ^ format.places) denominator steps)
      (beyond : 2 ^ format.ceiling ≤ steps) :
      RoundsTo negative numerator denominator (.infinite negative)

/-- Exact quotients are rounded to the nearest number. -/
theorem roundsTo_iff (precise : 1 < format.precision) (negative : Bool) (numerator : Nat)
    {denominator : Nat} (positive : 0 < denominator) {value : Floating format} :
    RoundsTo negative numerator denominator value ↔
      value = ofRatio negative numerator denominator := by
  have snapped := format.isNearest_snap precise (numerator * 2 ^ format.places) positive
  constructor
  · intro rounds
    cases rounds with
    | @finite magnitude nearest =>
        rcases magnitude with ⟨steps, representable⟩
        obtain rfl : steps = _ := nearest.unique positive snapped
        rw [ofRatio, ofSteps, dif_pos representable.bounded]
    | infinite nearest beyond =>
        rw [nearest.unique positive snapped] at beyond
        rw [ofRatio, ofSteps, dif_neg (Nat.not_lt.mpr beyond)]
  · rintro rfl
    rw [ofRatio, ofSteps]
    split
    · exact .finite snapped
    · next beyond => exact .infinite snapped (Nat.not_lt.mp beyond)

/-- A number in another format: a finite one is rounded to the nearest number of that
format. -/
inductive ConvertsTo {target : Format} : Floating format -> Floating target -> Prop where
  | nan : ConvertsTo .nan .nan
  | infinite (negative : Bool) : ConvertsTo (.infinite negative) (.infinite negative)
  | finite {negative : Bool} {magnitude : Magnitude format} {value : Floating target}
      (rounds : RoundsTo negative magnitude.steps (2 ^ format.places) value) :
      ConvertsTo (.finite negative magnitude) value

theorem convertsTo_iff {target : Format} (precise : 1 < target.precision)
    {number : Floating format} {value : Floating target} :
    number.ConvertsTo value ↔ value = number.convert target := by
  constructor
  · intro converts
    cases converts with
    | nan => rfl
    | infinite negative => rfl
    | finite rounds => exact (roundsTo_iff precise _ _ (Nat.two_pow_pos _)).mp rounds
  · rintro rfl
    cases number with
    | nan => exact .nan
    | infinite negative => exact .infinite negative
    | finite negative magnitude =>
        exact .finite ((roundsTo_iff precise negative magnitude.steps (Nat.two_pow_pos _)).mpr rfl)

end Floating

end Number
end SequenceCalculator
