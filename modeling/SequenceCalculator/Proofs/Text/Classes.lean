import SequenceCalculator.Text.Blank
import SequenceCalculator.Text.Digit
import SequenceCalculator.Text.Letter

namespace SequenceCalculator
namespace Text

/-!
# Letters, digits and blanks are different characters

The classes are tables of spans.  Whether two tables have no code point in common
can be computed from the spans alone, and it is computed once for each pair of
classes.
-/

/-- Whether two tables have no code point in common.  Both are walked through at
the same time, and each step leaves out the span that ends first. -/
def apartWithin : (steps : Nat) -> List Span -> List Span -> Bool
  | _, [], _ => true
  | _, _, [] => true
  | 0, _, _ => false
  | steps + 1, span :: spans, other :: others =>
      if span.2 < other.1 then apartWithin steps spans (other :: others)
      else if other.2 < span.1 then apartWithin steps (span :: spans) others
      else false

/-- No order of the spans is assumed: where a table is out of order, membership
stops early and so it has fewer members. -/
theorem not_inSpans_of_apart {steps : Nat} {first second : List Span}
    (apart : apartWithin steps first second = true) {code : Nat}
    (member : inSpans code first = true) : inSpans code second = false := by
  induction steps generalizing first second with
  | zero =>
      cases first with
      | nil => cases member
      | cons span spans =>
          cases second with
          | nil => rfl
          | cons other others => cases apart
  | succ steps inductionHypothesis =>
      cases first with
      | nil => cases member
      | cons span spans =>
          cases second with
          | nil => rfl
          | cons other others =>
              rw [apartWithin] at apart
              have started : ¬ code < span.1 := by
                intro before
                rw [inSpans, if_pos before] at member
                cases member
              split at apart
              · next ends =>
                by_cases inside : code ≤ span.2
                · rw [inSpans, if_pos (by omega)]
                · rw [inSpans, if_neg started, if_neg inside] at member
                  exact inductionHypothesis apart member
              · split at apart
                · next otherEnds =>
                  have tail := inductionHypothesis apart member
                  rw [inSpans, tail]
                  split
                  · rfl
                  · rw [if_neg (by omega)]
                · cases apart

theorem isDigit_of_isLetter {character : Char} (letter : isLetter character = true) :
    isDigit character = false :=
  have apart : apartWithin 1000 letterSpans digitSpans = true := by decide +kernel
  not_inSpans_of_apart apart letter

theorem isBlank_of_isLetter {character : Char} (letter : isLetter character = true) :
    isBlank character = false :=
  have apart : apartWithin 1000 letterSpans blankSpans = true := by decide +kernel
  not_inSpans_of_apart apart letter

theorem isBlank_of_isDigit {character : Char} (digit : isDigit character = true) :
    isBlank character = false :=
  have apart : apartWithin 1000 digitSpans blankSpans = true := by decide +kernel
  not_inSpans_of_apart apart digit

theorem isLetter_of_isBlank {character : Char} (blank : isBlank character = true) :
    isLetter character = false := by
  cases letter : isLetter character with
  | false => rfl
  | true => rw [isBlank_of_isLetter letter] at blank; cases blank

theorem isDigit_of_isBlank {character : Char} (blank : isBlank character = true) :
    isDigit character = false := by
  cases digit : isDigit character with
  | false => rfl
  | true => rw [isBlank_of_isDigit digit] at blank; cases blank

theorem isLetter_of_isDigit {character : Char} (digit : isDigit character = true) :
    isLetter character = false := by
  cases letter : isLetter character with
  | false => rfl
  | true => rw [isDigit_of_isLetter letter] at digit; cases digit

theorem inSpans_of_mem {spans : List Span}
    (sorted : spans.Pairwise fun span later => span.1 ≤ later.1) {span : Span}
    (among : span ∈ spans) {code : Nat} (after : span.1 ≤ code)
    (before : code ≤ span.2) : inSpans code spans = true := by
  induction spans with
  | nil => cases among
  | cons first rest inductionHypothesis =>
      rw [inSpans]
      rcases List.mem_cons.mp among with rfl | later
      · rw [if_neg (Nat.not_lt.mpr after), if_pos before]
      · rcases List.pairwise_cons.mp sorted with ⟨behindFirst, restSorted⟩
        have behind := behindFirst span later
        split
        · omega
        · split
          · rfl
          · exact inductionHypothesis restSorted later

/-- Every decimal digit may stand in a number token. -/
theorem isDigit_of_decimal {character : Char} (decimal : (decimalValue? character).isSome = true) :
    isDigit character = true := by
  have covered : (decimalSpans.all fun span => digitSpans.any fun other =>
      decide (other.1 ≤ span.1) && decide (span.2 ≤ other.2)) = true := by decide +kernel
  have sorted : digitSpans.Pairwise fun span later => span.1 ≤ later.1 := by decide +kernel
  rw [decimalValue?, Option.isSome_map, List.find?_isSome] at decimal
  rcases decimal with ⟨span, among, within⟩
  simp only [Bool.and_eq_true, decide_eq_true_eq] at within
  rcases List.any_eq_true.mp (List.all_eq_true.mp covered span among) with
    ⟨other, amongOthers, covers⟩
  simp only [Bool.and_eq_true, decide_eq_true_eq] at covers
  exact inSpans_of_mem sorted amongOthers (by omega) (by omega)

end Text
end SequenceCalculator
