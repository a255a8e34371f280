import SequenceCalculator.Proofs.Grammar.Breaking
import SequenceCalculator.Proofs.Report.Notices

namespace SequenceCalculator

/-!
# Messages of faults

A fault that nobody has foreseen is reported with its message in a template.  The
faults that reading and running a program can end with, and that of a file which
holds no text, have messages without braces, so their reports can be made.
-/

open Grammar

namespace Handler

theorem braceless_illegible (numeral : Illegible) : Template.Braceless numeral.text := by
  have digits {text : Text} (areDigits : forall character, character ∈ text ->
      Text.isDigit character = true) : Template.Braceless text :=
    Template.braceless_of_test (by decide) (by decide) areDigits
  have sign : Template.Braceless numeral.sign := by
    unfold Illegible.sign
    split <;> decide
  have tail : Template.Braceless numeral.tail := by
    unfold Illegible.tail
    split
    · decide
    · exact .cons (by decide) (digits numeral.fractionDigits)
  exact (sign.append (digits numeral.wholeDigits)).append tail

theorem braceless_faultMessage {cause : Fault} (message : Template.Braceless cause.message) :
    Template.Braceless (faultMessage cause) := by
  have category : Template.Braceless cause.category.toList := by
    rw [Fault.category.eq_def]
    split <;> decide
  have front : Template.Braceless "unknown error: '".toList := by decide
  exact (((front.append category).append (by decide)).append message).append (by decide)

theorem braceless_notDecimal (numeral : Illegible) :
    Template.Braceless (faultMessage (.notDecimal numeral.text)) := by
  have front : Template.Braceless "could not convert string to float: ".toList := by decide
  exact braceless_faultMessage
    (front.append (Text.braceless_quoted (braceless_illegible numeral)))

theorem ne_tooDeep_of_unbounded {cause : Fault}
    (notFinite : cause = .infiniteBound ∨ cause = .undefinedBound) : cause ≠ .tooDeep := by
  rintro rfl
  rcases notFinite with impossible | impossible
  · cases impossible
  · cases impossible

theorem braceless_unbounded {cause : Fault}
    (notFinite : cause = .infiniteBound ∨ cause = .undefinedBound) :
    Template.Braceless (faultMessage cause) := by
  rcases notFinite with rfl | rfl
  · exact braceless_faultMessage (by decide)
  · exact braceless_faultMessage (by decide)

theorem braceless_undecodable (place : Text.Undecodable) :
    Template.Braceless (faultMessage (.undecodable place)) := by
  have front : Template.Braceless "'utf-8' codec can't decode byte".toList := by decide
  have reason : Template.Braceless place.reason.toList := by
    unfold Text.Undecodable.reason
    split <;> decide
  have position := Text.braceless_repr place.position
  refine braceless_faultMessage ((front.append ?_).append reason)
  dsimp only
  split
  · have byte := Text.braceless_hexDigits place.byte 2
    have shown : Template.Braceless (s!" in position {place.position}: ").toList := by
      simp only [String.toList_append]
      exact (Template.Braceless.append (by decide) position).append (by decide)
    exact (Template.Braceless.append (by decide) byte).append shown
  · have last := Text.braceless_repr (place.position + place.length - 1)
    simp only [String.toList_append]
    exact (((Template.Braceless.append (by decide) position).append (by decide)).append
      last).append (by decide)

end Handler

end SequenceCalculator
