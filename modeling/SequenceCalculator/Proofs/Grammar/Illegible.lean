import SequenceCalculator.Proofs.Grammar.Shape
import SequenceCalculator.Proofs.Parsing.Numerals

namespace SequenceCalculator
namespace Grammar

/-!
# Numerals without a value

A numeral may be made of any digits, but only decimal digits have a place value.
An illegible numeral is one that is recognised and then cannot be converted.  The
part in front of the point is converted first, so a numeral with a fraction is
illegible only if that part is legible; otherwise the illegible numeral ends in
front of the point.  These are exactly the texts at which reading a decimal ends
in a fault.
-/

open Number SequenceCalculator.Parser

/-- A numeral with a digit that has no place value. -/
structure Illegible where
  negative : Bool
  whole : Text
  fraction : Text
  nonempty : whole ≠ []
  wholeDigits : forall character, character ∈ whole -> Text.isDigit character = true
  fractionDigits : forall character, character ∈ fraction -> Text.isDigit character = true
  valueless : fraction = [] ∧ placeValues? whole = none ∨
    (placeValues? whole).isSome = true ∧ placeValues? fraction = none

namespace Illegible

def sign (numeral : Illegible) : Text := if numeral.negative then ['-'] else []

/-- The point and the digits behind it, if there are any. -/
def tail (numeral : Illegible) : Text :=
  if numeral.fraction.isEmpty then [] else '.' :: numeral.fraction

def text (numeral : Illegible) : Text := numeral.sign ++ numeral.whole ++ numeral.tail

/-- An illegible numeral is spelled as a decimal. -/
def spelling (numeral : Illegible) : Spelling where
  negative := numeral.negative
  whole := numeral.whole
  fraction := numeral.fraction
  nonempty := numeral.nonempty
  wholeDigits := numeral.wholeDigits
  fractionDigits := numeral.fractionDigits

theorem text_eq (numeral : Illegible) : numeral.text = numeral.spelling.text :=
  List.append_assoc _ _ _

end Illegible

theorem exists_valueless {digits : Text} (none : placeValues? digits = none) :
    ∃ character, character ∈ digits ∧ Text.decimalValue? character = Option.none := by
  by_contra absent
  have decimal : forall character, character ∈ digits ->
      (Text.decimalValue? character).isSome = true := by
    intro character member
    rw [Option.isSome_iff_ne_none]
    intro isNone
    exact absent ⟨character, member, isNone⟩
  have some := placeValues?_isSome decimal
  rw [none] at some
  cases some

/-- Some digit of an illegible numeral has no place value. -/
theorem Illegible.exists_digit (numeral : Illegible) :
    ∃ character, character ∈ numeral.text ∧ Text.isDigit character = true ∧
      Text.decimalValue? character = none := by
  rcases numeral.valueless with ⟨_, none⟩ | ⟨_, none⟩
  · rcases exists_valueless none with ⟨character, member, valueless⟩
    refine ⟨character, ?_, numeral.wholeDigits character member, valueless⟩
    simp only [text, List.mem_append]
    exact .inl (.inr member)
  · rcases exists_valueless none with ⟨character, member, valueless⟩
    refine ⟨character, ?_, numeral.fractionDigits character member, valueless⟩
    have nonempty : numeral.fraction.isEmpty = false :=
      List.isEmpty_eq_false_iff.mpr (List.ne_nil_of_mem member)
    simp only [text, tail, nonempty, List.mem_append]
    exact .inr (List.mem_cons_of_mem _ member)

theorem readDecimal?_eq_none_iff {format : Format} {negative : Bool} {whole fraction : Text} :
    readDecimal? format negative whole fraction = none ↔
      placeValues? whole = none ∨ placeValues? fraction = none := by
  rw [readDecimal?]
  cases placeValues? whole with
  | none => simp
  | some wholeValues =>
      cases placeValues? fraction with
      | none => simp
      | some fractionValues => simp

theorem convertDecimal_eq_error {sign whole fraction : Text} {cause : Fault}
    (refused : convertDecimal sign whole fraction = .error cause) :
    (placeValues? whole = none ∨ placeValues? fraction = none) ∧
      cause = .notDecimal (sign ++ whole ++
        (if fraction.isEmpty then [] else '.' :: fraction)) := by
  rw [convertDecimal] at refused
  split at refused
  · cases refused
  · next unread =>
    cases refused
    exact ⟨readDecimal?_eq_none_iff.mp unread, rfl⟩

theorem convertDecimal_of_none (sign whole fraction : Text)
    (none : placeValues? whole = none ∨ placeValues? fraction = none) :
    convertDecimal sign whole fraction = .error (.notDecimal (sign ++ whole ++
      (if fraction.isEmpty then [] else '.' :: fraction))) := by
  have unread : readDecimal? .double (sign == ['-']) whole fraction = Option.none :=
    readDecimal?_eq_none_iff.mpr none
  simp only [convertDecimal, unread]

theorem convertDecimal_whole {whole : Text} (sign : Text)
    (legible : (placeValues? whole).isSome = true) :
    ∃ value, convertDecimal sign whole [] = .ok value := by
  cases converted : convertDecimal sign whole [] with
  | ok value => exact ⟨value, rfl⟩
  | error cause =>
      rcases (convertDecimal_eq_error converted).1 with none | none
      · rw [none] at legible
        cases legible
      · cases none

/-- A decimal that ends in a fault starts with an illegible numeral, which the
fault names. -/
theorem illegible_of_decimal {text : Text} {cause : Fault}
    (breaks : decimal text = .fault cause) :
    ∃ (numeral : Illegible) (rest : Text), text = numeral.text ++ rest ∧
      rest.takeWhile Text.isDigit = [] ∧ cause = .notDecimal numeral.text := by
  rcases Spelling.exists_ends text with ⟨spelling, behind, rfl, ends⟩ | ⟨⟨rest, fails⟩, _⟩
  · cases wholeConverted : convertDecimal spelling.sign spelling.whole [] with
    | error other =>
        rw [spelling.decimal_of_error ends.noDigit wholeConverted] at breaks
        cases breaks
        rcases convertDecimal_eq_error wholeConverted with ⟨none | impossible, rfl⟩
        · refine ⟨⟨spelling.negative, spelling.whole, [], spelling.nonempty, spelling.wholeDigits,
            (fun _ member => by cases member), .inl ⟨rfl, none⟩⟩, spelling.tail ++ behind, ?_,
            spelling.tail_stops ends.noDigit, rfl⟩
          rw [spelling.text_append, Illegible.text, List.append_assoc, List.append_assoc]
          rfl
        · cases impossible
    | ok value =>
        have legible : (placeValues? spelling.whole).isSome = true := by
          rw [Option.isSome_iff_ne_none]
          intro none
          rw [convertDecimal_of_none _ _ _ (.inl none)] at wholeConverted
          cases wholeConverted
        rw [ends.decimal_eq wholeConverted] at breaks
        rcases convertDecimal_eq_error (ofExcept_eq_fault breaks) with ⟨none | none, rfl⟩
        · rw [none] at legible
          cases legible
        · refine ⟨⟨spelling.negative, spelling.whole, spelling.fraction, spelling.nonempty,
            spelling.wholeDigits, spelling.fractionDigits, .inr ⟨legible, none⟩⟩, behind, ?_,
            ends.noDigit, rfl⟩
          rw [Illegible.text_eq]
          rfl
  · rw [fails] at breaks
    cases breaks

/-- An illegible numeral that no digit continues ends reading a decimal in a
fault. -/
theorem decimal_of_illegible (numeral : Illegible) {rest : Text}
    (stops : rest.takeWhile Text.isDigit = []) :
    decimal (numeral.text ++ rest) = .fault (.notDecimal numeral.text) := by
  rw [numeral.text_eq]
  rcases numeral.valueless with ⟨noFraction, none⟩ | ⟨legible, none⟩
  · have refused := convertDecimal_of_none numeral.sign numeral.whole [] (.inl none)
    rw [numeral.spelling.decimal_of_error stops refused, ← numeral.text_eq, Illegible.text,
      Illegible.tail, noFraction]
  · have fraction : numeral.fraction ≠ [] := by
      intro noFraction
      rw [noFraction] at none
      cases none
    have ends : numeral.spelling.Ends rest := ⟨stops, fun noFraction => absurd noFraction fraction⟩
    have refused := convertDecimal_of_none numeral.sign numeral.whole numeral.fraction (.inr none)
    rcases convertDecimal_whole numeral.sign legible with ⟨value, converted⟩
    rw [ends.decimal_eq converted, ← numeral.text_eq]
    exact congrArg (ofExcept · rest) refused

end Grammar
end SequenceCalculator
