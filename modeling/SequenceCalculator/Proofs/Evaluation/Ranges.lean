import SequenceCalculator.Proofs.Evaluation.Kinds
import SequenceCalculator.Proofs.Evaluation.Parts
import SequenceCalculator.Proofs.Number.Order

namespace SequenceCalculator

/-!
# The numbers of a range

A range of two finite bounds in order is a sequence of one number for each integer
between the integer parts of the bounds.  Each integer is rounded to double and then to
single precision.  The integer part of a bound can always be represented, so both ends
are exact; between them the numbers never decrease, but beyond two to the twenty-fourth
neighbours may be equal.

Bounds in the wrong order are a failure, also if they have the same integer part.
-/

open Number

namespace Number

/-- The integer part of a value, towards zero. -/
def wholePart (amount : Int) : Int := amount.tdiv Format.single.unit

theorem natAbs_wholePart (amount : Int) :
    (wholePart amount).natAbs = amount.natAbs / 2 ^ Format.single.places :=
  Int.natAbs_tdiv amount Format.single.unit

theorem natAbs_wholePart_le {amount : Int} {bound : Nat}
    (bounded : amount.natAbs ≤ bound * 2 ^ Format.single.places) :
    (wholePart amount).natAbs ≤ bound := by
  rw [natAbs_wholePart]
  exact Nat.div_le_of_le_mul (by rwa [Nat.mul_comm])

theorem wholePart_mono {first last : Int} (ordered : first ≤ last) :
    wholePart first ≤ wholePart last :=
  Int.tdiv_le_tdiv (Int.natCast_pos.mpr (Nat.two_pow_pos _)) ordered

section Bound

variable {bound : Single} {amount : Int} (finite : bound.amount? = some amount)
include finite

theorem rangeBound_of_amount? : rangeBound bound = .ok (wholePart amount) := by
  rcases Floating.exists_magnitude_of_amount? finite with ⟨negative, magnitude, rfl, rfl⟩
  have whole : (magnitude.steps : Int).tdiv Format.single.unit =
      (magnitude.steps / 2 ^ Format.single.places : Nat) := (Int.ofNat_tdiv _ _).symm
  cases negative with
  | false => simp only [rangeBound, wholePart, Floating.signed, Bool.false_eq_true, if_false, whole]
  | true => simp only [rangeBound, wholePart, Floating.signed, if_true, Int.neg_tdiv, whole]

/-- The integer part of a number can be represented. -/
theorem representable_wholePart : Format.single.Representable
    ((wholePart amount).natAbs * 2 ^ Format.single.places) := by
  rcases Floating.exists_magnitude_of_amount? finite with ⟨negative, magnitude, rfl, rfl⟩
  have size : (Floating.signed negative magnitude).natAbs = magnitude.steps := by
    cases negative <;> simp [Floating.signed]
  rw [natAbs_wholePart, size]
  exact magnitude.representable.whole

end Bound

theorem below_of_amount? {start stop : Single} {first last : Int}
    (starts : start.amount? = some first) (stops : stop.amount? = some last) :
    stop.below start = decide (last < first) := by
  rcases Floating.exists_magnitude_of_amount? starts with ⟨_, _, rfl, rfl⟩
  rcases Floating.exists_magnitude_of_amount? stops with ⟨_, _, rfl, rfl⟩
  rfl

/-- The integers between two that can be represented become finite numbers. -/
theorem amount?_between {lowest highest : Int}
    (lowestRepresentable : Format.single.Representable
      (lowest.natAbs * 2 ^ Format.single.places))
    (highestRepresentable : Format.single.Representable
      (highest.natAbs * 2 ^ Format.single.places))
    {integer : Int} (above : lowest ≤ integer) (below : integer ≤ highest) :
    (ofInteger integer).amount? = some (integerAmount .single .double integer) := by
  have within := Format.single_within_double
  rcases Int.le_total integer 0 with negative | positive
  · exact amount?_of_le within lowestRepresentable (by omega)
  · exact amount?_of_le within highestRepresentable (by omega)

/-- Small integers are not rounded. -/
theorem amount?_of_small {integer : Int} (small : integer.natAbs ≤ 2 ^ (24 : Nat)) :
    (ofInteger integer).amount? = some (integer * Format.single.unit) := by
  have within := Format.single_within_double
  have representable := representable_of_le small
  rw [← integerAmount_eq within representable rfl]
  exact amount?_of_le within representable (Nat.le_refl _)

/-- What a sequence has to be to go through the integers from the integer part of one
value to that of another. -/
structure Materializes (first last : Int) (elements : List Single) : Prop where
  count : (elements.length : Int) = wholePart last - wholePart first + 1
  nonempty : elements ≠ []
  /-- Every element is an integer that is rounded to double and then to single
  precision. -/
  rounded : forall index, index < elements.length ->
    elements[index]? =
      some ((Floating.ofInt (wholePart first + (index : Nat)) : Double).convert .single)
  starts : ∃ element, elements.head? = some element ∧
    element.amount? = some (wholePart first * Format.single.unit)
  ends : ∃ element, elements.getLast? = some element ∧
    element.amount? = some (wholePart last * Format.single.unit)
  ascending : elements.Pairwise fun earlier later =>
    ∃ less more, earlier.amount? = some less ∧ later.amount? = some more ∧ less ≤ more
  /-- Between bounds of at most two to the twenty-fourth each element is one more than
  the one before. -/
  successive : first.natAbs ≤ 2 ^ (24 : Nat) * 2 ^ Format.single.places ->
    last.natAbs ≤ 2 ^ (24 : Nat) * 2 ^ Format.single.places ->
    forall index earlier later, elements[index]? = some earlier ->
      elements[index + 1]? = some later ->
      ∃ amount, earlier.amount? = some amount ∧
        later.amount? = some (amount + Format.single.unit)

/-- The integers from one on, as numbers of a program. -/
def countFrom (lowest : Int) (count : Nat) : List Single :=
  (List.range count).map fun index => ofInteger (lowest + (index : Nat))

theorem countFrom_getElem? (lowest : Int) {count index : Nat} (inside : index < count) :
    (countFrom lowest count)[index]? = some (ofInteger (lowest + (index : Nat))) := by
  simp only [countFrom, List.getElem?_map, List.getElem?_range inside, Option.map_some]

theorem length_countFrom (lowest : Int) (count : Nat) :
    (countFrom lowest count).length = count := by
  rw [countFrom, List.length_map, List.length_range]

/-- Every point is about the integers at one or two indices, and those are known. -/
theorem materializes_countFrom {first last : Int} (ordered : first ≤ last)
    (firstRepresentable : Format.single.Representable
      ((wholePart first).natAbs * 2 ^ Format.single.places))
    (lastRepresentable : Format.single.Representable
      ((wholePart last).natAbs * 2 ^ Format.single.places)) :
    Materializes first last
      (countFrom (wholePart first) (wholePart last - wholePart first + 1).toNat) := by
  have within := Format.single_within_double
  have wholeOrdered := wholePart_mono ordered
  obtain ⟨count, isCount⟩ : ∃ count : Nat,
      (wholePart last - wholePart first + 1).toNat = count + 1 :=
    ⟨(wholePart last - wholePart first).toNat, by omega⟩
  rw [isCount]
  have amounts {index : Nat} (inside : index < count + 1) :
      (ofInteger (wholePart first + (index : Nat))).amount? =
        some (integerAmount .single .double (wholePart first + (index : Nat))) :=
    amount?_between firstRepresentable lastRepresentable (by omega) (by omega)
  refine ⟨?_, ?_, ?_, ?_, ?_, ?_, ?_⟩
  · rw [length_countFrom]
    omega
  · exact List.ne_nil_of_length_pos (by rw [length_countFrom]; omega)
  · intro index inside
    rw [length_countFrom] at inside
    exact countFrom_getElem? _ inside
  · refine ⟨_, List.head?_eq_getElem?.trans (countFrom_getElem? _ (Nat.succ_pos count)), ?_⟩
    rw [amounts (Nat.succ_pos count), integerAmount_eq within firstRepresentable (by omega)]
    simp
  · have index : (countFrom (wholePart first) (count + 1)).length - 1 = count := by
      rw [length_countFrom]
      rfl
    have isLast : wholePart first + (count : Nat) = wholePart last := by omega
    refine ⟨ofInteger (wholePart first + (count : Nat)), ?_, ?_⟩
    · rw [List.getLast?_eq_getElem?, index]
      exact countFrom_getElem? _ (Nat.lt_succ_self count)
    · rw [amounts (Nat.lt_succ_self count), isLast,
        integerAmount_eq within lastRepresentable rfl]
  · refine List.pairwise_map.mpr (List.pairwise_lt_range.imp_of_mem ?_)
    intro earlier later isEarlier isLater before
    exact ⟨_, _, amounts (List.mem_range.mp isEarlier), amounts (List.mem_range.mp isLater),
      integerAmount_mono (by omega)⟩
  · intro firstSmall lastSmall index earlier later isEarlier isLater
    have inside : index + 1 < count + 1 := by
      have bounded := (List.getElem?_eq_some_iff.mp isLater).1
      rwa [length_countFrom] at bounded
    have firstBounded := natAbs_wholePart_le firstSmall
    have lastBounded := natAbs_wholePart_le lastSmall
    rw [countFrom_getElem? _ (by omega)] at isEarlier
    rw [countFrom_getElem? _ inside] at isLater
    rw [← Option.some.inj isEarlier, ← Option.some.inj isLater]
    refine ⟨_, amount?_of_small (by omega), ?_⟩
    rw [amount?_of_small (by omega), Int.natCast_succ, ← Int.add_assoc, Int.add_mul _ 1,
      Int.one_mul]

theorem integerRange_of_amount? {start stop : Single} {first last : Int}
    (starts : start.amount? = some first) (stops : stop.amount? = some last) :
    integerRange start stop =
      .ok (countFrom (wholePart first) (wholePart last - wholePart first + 1).toNat) := by
  rw [integerRange, rangeBound_of_amount? starts, rangeBound_of_amount? stops]
  rfl

end Number

namespace Evaluation

/-- Between two numbers a range is evaluated at once. -/
theorem evaluate_range_numbers (depth : Nat) (environment : Environment) (start stop : Single) :
    (evaluate (depth + 2) environment .anything
      (.range (.number start) (.number stop))).value = interval start stop := by
  rw [evaluate_anything, value, Trial.value_afterPause, rule, value_range]
  rfl

/-- A range of finite bounds in order goes through the integers between them, in any
bindings; bounds in the wrong order are a failure. -/
theorem range_materialized {start stop : Single} {first last : Int}
    (starts : start.amount? = some first) (stops : stop.amount? = some last)
    (depth : Nat) (environment : Environment) :
    (first ≤ last -> ∃ elements,
      (evaluate (depth + 2) environment .anything
        (.range (.number start) (.number stop))).value = .success (.sequence elements) ∧
      Materializes first last elements) ∧
    (last < first ->
      (evaluate (depth + 2) environment .anything
        (.range (.number start) (.number stop))).value =
          .failure (.malformedRange start stop)) := by
  rw [evaluate_range_numbers, interval, below_of_amount? starts stops]
  constructor
  · intro ordered
    have found := integerRange_of_amount? starts stops
    rw [decide_eq_false (Int.not_lt.mpr ordered), found]
    exact ⟨_, rfl, materializes_countFrom ordered (representable_wholePart starts)
      (representable_wholePart stops)⟩
  · intro reversed
    rw [decide_eq_true reversed]
    rfl

/-- The number three quarters. -/
def threeQuarters : Single := Floating.ofRatio false 3 4

/-- Beyond two to the twenty-fourth some elements are equal; and bounds in the wrong order
fail although their integer parts are the same. -/
theorem range_materialized_beyond :
    ((ofInteger 16777215).amount? = some (16777215 * Format.single.unit) ∧
      (ofInteger 16777220).amount? = some (16777220 * Format.single.unit) ∧
      Materializes (16777215 * Format.single.unit) (16777220 * Format.single.unit)
        ([16777215, 16777216, 16777216, 16777218, 16777220, 16777220].map ofInteger)) ∧
    (∃ more less, threeQuarters.amount? = some more ∧
      (Floating.half : Single).amount? = some less ∧
      less < more ∧ wholePart less = wholePart more ∧
      (evaluate 2 [] .anything (.range (.number threeQuarters) (.number Floating.half))).value =
        .failure (.malformedRange threeQuarters Floating.half)) := by
  have starts : (ofInteger 16777215).amount? = some (16777215 * Format.single.unit) := by
    decide +kernel
  have stops : (ofInteger 16777220).amount? = some (16777220 * Format.single.unit) := by
    decide +kernel
  have found : (evaluate 2 [] .anything
      (.range (.number (ofInteger 16777215)) (.number (ofInteger 16777220)))).value =
      .success (.sequence
        ([16777215, 16777216, 16777216, 16777218, 16777220, 16777220].map ofInteger)) := by
    decide +kernel
  refine ⟨⟨starts, stops, ?_⟩, ?_⟩
  · rcases (range_materialized starts stops 0 []).1 (by decide +kernel) with
      ⟨elements, evaluates, materializes⟩
    rw [found] at evaluates
    rwa [← Value.sequence.inj (Outcome.success.inj evaluates)] at materializes
  · have more : threeQuarters.amount? = some (3 * 2 ^ 147) := by decide +kernel
    have less : (Floating.half : Single).amount? = some (2 ^ 148) := by decide +kernel
    exact ⟨_, _, more, less, by decide, by decide +kernel,
      (range_materialized more less 0 []).2 (by decide)⟩

end Evaluation

end SequenceCalculator
