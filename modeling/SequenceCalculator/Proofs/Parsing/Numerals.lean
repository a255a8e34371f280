import SequenceCalculator.Proofs.Number.Nearest
import SequenceCalculator.Proofs.Parsing.Leads

namespace SequenceCalculator
namespace Parser

/-!
# Decimals are read as far as they go

A decimal is spelled as an optional minus sign, digits of any kind, and an optional point
with more of them.  Nothing longer than a spelling can be read in its place exactly when no
digit follows it and, if it has no point yet, no point with a digit behind it.  Reading
takes this longest spelling, so a point without a digit behind it is given back.  Its value
is the number nearest to what the digits denote.  Where one of them has no place value, the
conversion ends in a fault, although a shorter spelling might have been converted.
-/

open Number

/-!
## The parts of a decimal
-/

theorem sign_of_digit (negative : Bool) {digit : Char} {rest : Text}
    (isDigit : Text.isDigit digit = true) :
    sign ((if negative then ['-'] else []) ++ digit :: rest) =
      .success (if negative then ['-'] else []) (digit :: rest) := by
  cases negative with
  | true => rfl
  | false =>
      have different : digit ≠ '-' := by
        rintro rfl
        exact absurd isDigit (by decide)
      simp [sign, orElse, mapTo, map, char, satisfy, different, pure]

theorem digits_of_run {run rest : Text} (nonempty : run ≠ [])
    (areDigits : forall character, character ∈ run -> Text.isDigit character = true)
    (stops : rest.takeWhile Text.isDigit = []) : digits (run ++ rest) = .success run rest :=
  atLeastOne_satisfy_append nonempty areDigits stops

theorem digits_refuses {rest : Text} (stops : rest.takeWhile Text.isDigit = []) :
    digits rest = .failure rest := by
  rw [digits, digit, atLeastOne_satisfy, if_pos stops]

theorem point_cons (rest : Text) : char '.' ('.' :: rest) = .success '.' rest :=
  satisfy_cons_of_true (by decide) rest

theorem point_stops (rest : Text) : ('.' :: rest).takeWhile Text.isDigit = [] :=
  List.takeWhile_cons_of_neg (by decide)

theorem fraction_of_run {run rest : Text} (nonempty : run ≠ [])
    (areDigits : forall character, character ∈ run -> Text.isDigit character = true)
    (stops : rest.takeWhile Text.isDigit = []) :
    (char '.').skipLeft digits ('.' :: (run ++ rest)) = .success run rest := by
  rw [skipLeft, bind_of_success (point_cons _)]
  exact digits_of_run nonempty areDigits stops

/-- Without digits behind a point there is no fraction. -/
theorem fraction_refuses {rest : Text}
    (noFraction : forall behind, rest = '.' :: behind -> behind.takeWhile Text.isDigit = []) :
    ((char '.').skipLeft digits).Fails rest := by
  cases rest with
  | nil => exact ⟨[], rfl⟩
  | cons first behind =>
      by_cases isPoint : first = '.'
      · subst first
        refine ⟨behind, ?_⟩
        rw [skipLeft, bind_of_success (point_cons behind), digits_refuses (noFraction behind rfl)]
      · have fails : char '.' (first :: behind) = .failure (first :: behind) := by
          simp [char, satisfy, isPoint]
        exact ⟨_, bind_of_failure _ fails⟩

/-- Without a minus sign or a digit at its start no decimal is read. -/
theorem decimal_refuses {text : Text} (noMinus : text.takeWhile (· == '-') = [])
    (noDigit : text.takeWhile Text.isDigit = []) : decimal text = .failure text := by
  have unsigned : char '-' text = .failure text := satisfy_of_stops noMinus
  have signed : sign text = .success [] text := by
    rw [sign, mapTo, orElse_of_failure _ (map_of_failure _ unsigned)]
    rfl
  rw [decimal, bind_of_success signed, bind_of_failure _ (digits_refuses noDigit)]

/-- The part in front of the point is converted before anything behind it is looked at. -/
theorem decimal_of_whole (negative : Bool) {whole behind : Text} (nonempty : whole ≠ [])
    (wholeDigits : forall character, character ∈ whole -> Text.isDigit character = true)
    (stops : behind.takeWhile Text.isDigit = []) :
    decimal ((if negative then ['-'] else []) ++ (whole ++ behind)) =
      match convertDecimal (if negative then ['-'] else []) whole [] with
      | .error cause => .fault cause
      | .ok value =>
          ((((char '.').skipLeft digits).bind fun fraction =>
            ofExcept (convertDecimal (if negative then ['-'] else []) whole fraction)).orElse
              (pure value)) behind := by
  rcases List.exists_cons_of_ne_nil nonempty with ⟨digit, others, rfl⟩
  have signed : sign ((if negative then ['-'] else []) ++ digit :: (others ++ behind)) =
      .success (if negative then ['-'] else []) (digit :: (others ++ behind)) :=
    sign_of_digit negative (wholeDigits digit List.mem_cons_self)
  rw [decimal, List.cons_append, bind_of_success signed, ← List.cons_append,
    bind_of_success (digits_of_run nonempty wholeDigits stops)]
  cases convertDecimal (if negative then ['-'] else []) (digit :: others) [] <;> rfl

/-- Digits are converted when all of them have place values. -/
theorem convertDecimal_eq_ok_iff {negative : Bool} {whole fraction : Text} {value : Double} :
    convertDecimal (if negative then ['-'] else []) whole fraction = .ok value ↔
      ∃ wholeValues fractionValues, placeValues? whole = some wholeValues ∧
        placeValues? fraction = some fractionValues ∧
        value = Floating.ofRatio negative (ofPlaceValues (wholeValues ++ fractionValues))
          (10 ^ fractionValues.length) := by
  have same : ((if negative then ['-'] else []) == ['-']) = negative := by
    cases negative <;> rfl
  rw [convertDecimal, same, readDecimal?]
  cases placeValues? whole with
  | none => simp
  | some wholeValues =>
      cases placeValues? fraction with
      | none => simp
      | some fractionValues => simp [eq_comm]

/-!
## Spellings
-/

/-- A decimal as it is spelled.  Without digits behind it there is no point. -/
structure Spelling where
  negative : Bool
  whole : Text
  fraction : Text
  nonempty : whole ≠ []
  wholeDigits : forall character, character ∈ whole -> Text.isDigit character = true
  fractionDigits : forall character, character ∈ fraction -> Text.isDigit character = true

namespace Spelling

def sign (spelling : Spelling) : Text := if spelling.negative then ['-'] else []

/-- The point and the digits behind it, if there are any. -/
def tail (spelling : Spelling) : Text :=
  if spelling.fraction.isEmpty then [] else '.' :: spelling.fraction

def text (spelling : Spelling) : Text := spelling.sign ++ (spelling.whole ++ spelling.tail)

/-- A text starts with a spelling and with no longer one. -/
structure IsLongest (spelling : Spelling) (text : Text) : Prop where
  starts : spelling.text <+: text
  longest : forall other : Spelling, other.text <+: text ->
    other.text.length ≤ spelling.text.length

/-- Nothing continues a spelling. -/
structure Ends (spelling : Spelling) (behind : Text) : Prop where
  noDigit : behind.takeWhile Text.isDigit = []
  noFraction : spelling.fraction = [] ->
    forall more, behind = '.' :: more -> more.takeWhile Text.isDigit = []

/-- The double nearest to what the digits of a spelling denote.  There is none if one of
them has no place value. -/
def Denotes (spelling : Spelling) (value : Double) : Prop :=
  ∃ wholeValues fractionValues, placeValues? spelling.whole = some wholeValues ∧
    placeValues? spelling.fraction = some fractionValues ∧
    Floating.RoundsTo spelling.negative (ofPlaceValues (wholeValues ++ fractionValues))
      (10 ^ fractionValues.length) value

variable (spelling : Spelling)

theorem text_append (behind : Text) : spelling.text ++ behind =
    spelling.sign ++ (spelling.whole ++ (spelling.tail ++ behind)) := by
  simp only [text, List.append_assoc]

theorem tail_of_nil (noFraction : spelling.fraction = []) : spelling.tail = [] := by
  rw [tail, noFraction]
  rfl

theorem tail_of_ne_nil (fraction : spelling.fraction ≠ []) :
    spelling.tail = '.' :: spelling.fraction := by
  rw [tail, if_neg (by simpa using fraction)]

/-- The digits in front of the point are all the digits there. -/
theorem tail_stops {behind : Text} (noDigit : behind.takeWhile Text.isDigit = []) :
    (spelling.tail ++ behind).takeWhile Text.isDigit = [] := by
  by_cases noFraction : spelling.fraction = []
  · rwa [spelling.tail_of_nil noFraction]
  · rw [spelling.tail_of_ne_nil noFraction]
    exact point_stops _

/-!
## The longest spelling
-/

theorem exists_append_digit {digit : Char} (isDigit : Text.isDigit digit = true) :
    ∃ longer : Spelling, longer.text = spelling.text ++ [digit] := by
  have allDigits {run : Text}
      (areDigits : forall character, character ∈ run -> Text.isDigit character = true) :
      forall character, character ∈ run ++ [digit] -> Text.isDigit character = true := by
    intro character member
    rcases List.mem_append.mp member with before | last
    · exact areDigits character before
    · rwa [List.mem_singleton.mp last]
  by_cases noFraction : spelling.fraction = []
  · refine ⟨⟨spelling.negative, spelling.whole ++ [digit], [], by simp,
      allDigits spelling.wholeDigits, fun _ member => by cases member⟩, ?_⟩
    rw [text_append, spelling.tail_of_nil noFraction]
    simp [text, sign, tail]
  · refine ⟨⟨spelling.negative, spelling.whole, spelling.fraction ++ [digit], spelling.nonempty,
      spelling.wholeDigits, allDigits spelling.fractionDigits⟩, ?_⟩
    rw [text_append, spelling.tail_of_ne_nil noFraction]
    simp [text, sign, tail]

theorem exists_append_point (noFraction : spelling.fraction = []) {digit : Char}
    (isDigit : Text.isDigit digit = true) :
    ∃ longer : Spelling, longer.text = spelling.text ++ ['.', digit] := by
  refine ⟨⟨spelling.negative, spelling.whole, [digit], spelling.nonempty, spelling.wholeDigits,
    fun character member => by rwa [List.mem_singleton.mp member]⟩, ?_⟩
  rw [text_append, spelling.tail_of_nil noFraction]
  simp [text, sign, tail]

theorem IsLongest.ends {spelling : Spelling} {behind : Text}
    (longest : spelling.IsLongest (spelling.text ++ behind)) : spelling.Ends behind := by
  have noLonger {more : Text} (some : more ≠ []) (starts : more <+: behind) :
      ¬ ∃ longer : Spelling, longer.text = spelling.text ++ more := by
    rintro ⟨longer, isLonger⟩
    have bounded := longest.longest longer
      (by rw [isLonger]; exact (List.prefix_append_right_inj _).mpr starts)
    have positive := List.length_pos_of_ne_nil some
    rw [isLonger, List.length_append] at bounded
    omega
  constructor
  · cases behind with
    | nil => rfl
    | cons digit others =>
        apply List.takeWhile_cons_of_neg
        intro isDigit
        exact noLonger (List.cons_ne_nil digit []) ⟨others, rfl⟩
          (spelling.exists_append_digit isDigit)
  · rintro noFraction more rfl
    cases more with
    | nil => rfl
    | cons digit others =>
        apply List.takeWhile_cons_of_neg
        intro isDigit
        exact noLonger (List.cons_ne_nil '.' [digit]) ⟨others, rfl⟩
          (spelling.exists_append_point noFraction isDigit)

theorem sign_text (behind : Text) : Parser.sign (spelling.text ++ behind) =
    .success spelling.sign (spelling.whole ++ (spelling.tail ++ behind)) := by
  rcases List.exists_cons_of_ne_nil spelling.nonempty with ⟨digit, others, whole⟩
  have isDigit := spelling.wholeDigits digit (by rw [whole]; exact List.mem_cons_self)
  rw [text_append, whole]
  exact sign_of_digit spelling.negative isDigit

/-- A run of digits that ends contains every run that starts where it does. -/
theorem run_eq {run other rest more : Text}
    (areDigits : forall character, character ∈ run -> Text.isDigit character = true)
    (alsoDigits : forall character, character ∈ other -> Text.isDigit character = true)
    (stops : rest.takeWhile Text.isDigit = []) (same : other ++ more = run ++ rest) :
    run = other ++ more.takeWhile Text.isDigit := by
  have runs := congrArg (List.takeWhile Text.isDigit) same
  rw [List.takeWhile_append_of_pos areDigits, List.takeWhile_append_of_pos alsoDigits, stops,
    List.append_nil] at runs
  exact runs.symm

/-- The signs of two spellings at one place are the same, and so is what follows them.  Then
the digits in front of the point are compared, and those behind it only if the former are
the same. -/
theorem Ends.isLongest {spelling : Spelling} {behind : Text} (ends : spelling.Ends behind) :
    spelling.IsLongest (spelling.text ++ behind) := by
  refine ⟨List.prefix_append _ _, ?_⟩
  rintro other ⟨more, same⟩
  have signed := other.sign_text more
  rw [same, spelling.sign_text behind, Reply.success.injEq] at signed
  rcases signed with ⟨sameSign, sameDigits⟩
  have whole := run_eq spelling.wholeDigits other.wholeDigits (spelling.tail_stops ends.noDigit)
    sameDigits.symm
  simp only [text, List.length_append, sameSign]
  by_cases noFraction : other.fraction = []
  · rw [other.tail_of_nil noFraction, whole, List.length_append, List.length_nil]
    omega
  · rw [other.tail_of_ne_nil noFraction] at sameDigits whole ⊢
    rw [List.cons_append, point_stops, List.append_nil] at whole
    rw [whole, List.append_cancel_left_eq] at sameDigits
    by_cases none : spelling.fraction = []
    · rw [spelling.tail_of_nil none] at sameDigits
      have fraction := ends.noFraction none (other.fraction ++ more) sameDigits
      rw [List.takeWhile_append_of_pos other.fractionDigits, List.append_eq_nil_iff] at fraction
      exact absurd fraction.1 noFraction
    · rw [spelling.tail_of_ne_nil none] at sameDigits ⊢
      have fraction := run_eq spelling.fractionDigits other.fractionDigits ends.noDigit
        (List.cons.inj sameDigits).2.symm
      rw [whole, List.length_cons, List.length_cons, fraction, List.length_append]
      omega

/-- Where a text does not start with a longest spelling, it starts with none. -/
theorem exists_ends (text : Text) :
    (∃ (spelling : Spelling) (behind : Text), text = spelling.text ++ behind ∧
      spelling.Ends behind) ∨
    decimal.Fails text ∧ forall spelling : Spelling, ¬ spelling.text <+: text := by
  cases signed : Parser.sign text with
  | failure rest => cases orElse_eq_failure signed
  | fault cause => exact absurd signed (faultless_sign _ _)
  | success found unsigned =>
      by_cases noDigit : unsigned.takeWhile Text.isDigit = []
      · refine .inr ⟨?_, ?_⟩
        · exact ⟨unsigned, by
            rw [decimal, bind_of_success signed, bind_of_failure _ (digits_refuses noDigit)]⟩
        · rintro spelling ⟨behind, rfl⟩
          rw [spelling.sign_text behind, Reply.success.injEq] at signed
          rw [← signed.2, List.takeWhile_append_of_pos spelling.wholeDigits] at noDigit
          exact spelling.nonempty (List.append_eq_nil_iff.mp noDigit).1
      · rcases sign_eq_success signed with ⟨negative, rfl, splitSign⟩
        have splitWhole := List.takeWhile_append_dropWhile (p := Text.isDigit) (l := unsigned)
        have stops := Text.takeWhile_dropWhile Text.isDigit unsigned
        left
        by_cases pointed : ∃ more, unsigned.dropWhile Text.isDigit = '.' :: more ∧
            more.takeWhile Text.isDigit ≠ []
        · rcases pointed with ⟨more, point, fraction⟩
          refine ⟨⟨negative, unsigned.takeWhile Text.isDigit, more.takeWhile Text.isDigit, noDigit,
            fun _ => List.mem_takeWhile_imp, fun _ => List.mem_takeWhile_imp⟩,
            more.dropWhile Text.isDigit, ?_, Text.takeWhile_dropWhile _ _,
            fun none => absurd none fraction⟩
          rw [text_append, tail_of_ne_nil _ fraction, List.cons_append,
            List.takeWhile_append_dropWhile, ← point, splitWhole]
          exact splitSign
        · refine ⟨⟨negative, unsigned.takeWhile Text.isDigit, [], noDigit,
            fun _ => List.mem_takeWhile_imp, fun _ member => by cases member⟩,
            unsigned.dropWhile Text.isDigit, ?_, stops, ?_⟩
          · rw [text_append, tail_of_nil _ rfl, List.nil_append, splitWhole]
            exact splitSign
          · intro _ more point
            by_contra fraction
            exact pointed ⟨more, point, fraction⟩

/-!
## What is made of the longest spelling
-/

theorem denotes_iff {spelling : Spelling} {value : Double} :
    spelling.Denotes value ↔
      convertDecimal spelling.sign spelling.whole spelling.fraction = .ok value := by
  rw [sign, convertDecimal_eq_ok_iff, Denotes]
  have rounds (numerator count : Nat) :
      Floating.RoundsTo spelling.negative numerator (10 ^ count) value ↔
        value = Floating.ofRatio spelling.negative numerator (10 ^ count) :=
    Floating.roundsTo_iff (by decide) _ _ (Nat.pow_pos (by decide))
  simp only [rounds]

/-- The digits in front of the point have place values of their own. -/
theorem Denotes.whole {spelling : Spelling} {value : Double} (denotes : spelling.Denotes value) :
    ∃ wholeValue, convertDecimal spelling.sign spelling.whole [] = .ok wholeValue := by
  rcases denotes with ⟨wholeValues, _, areWhole, _⟩
  exact ⟨_, convertDecimal_eq_ok_iff.mpr ⟨wholeValues, [], areWhole, rfl, rfl⟩⟩

/-- Where nothing continues a spelling, the answer is that of its conversion. -/
theorem Ends.decimal_eq {spelling : Spelling} {behind : Text} (ends : spelling.Ends behind)
    {wholeValue : Double}
    (wholeConverted : convertDecimal spelling.sign spelling.whole [] = .ok wholeValue) :
    decimal (spelling.text ++ behind) =
      ofExcept (convertDecimal spelling.sign spelling.whole spelling.fraction) behind := by
  have reads := decimal_of_whole spelling.negative spelling.nonempty spelling.wholeDigits
    (spelling.tail_stops ends.noDigit)
  rw [← sign, ← text_append, wholeConverted] at reads
  rw [reads]
  by_cases noFraction : spelling.fraction = []
  · have refuses := (fraction_refuses (ends.noFraction noFraction)).bind fun fraction =>
      ofExcept (convertDecimal spelling.sign spelling.whole fraction)
    rw [spelling.tail_of_nil noFraction, List.nil_append, noFraction, wholeConverted]
    exact refuses.orElse_eq _
  · have pointed := fraction_of_run noFraction spelling.fractionDigits ends.noDigit
    rw [spelling.tail_of_ne_nil noFraction, List.cons_append]
    simp only [Parser.orElse, bind_of_success pointed]
    cases convertDecimal spelling.sign spelling.whole spelling.fraction <;> rfl

theorem Ends.decimal_of_denotes {spelling : Spelling} {behind : Text}
    (ends : spelling.Ends behind) {value : Double} (denotes : spelling.Denotes value) :
    decimal (spelling.text ++ behind) = .success value behind := by
  rcases denotes.whole with ⟨wholeValue, wholeConverted⟩
  rw [ends.decimal_eq wholeConverted, denotes_iff.mp denotes]
  rfl

/-- Where the digits in front of the point cannot be converted, nothing behind them matters. -/
theorem decimal_of_error {behind : Text} (noDigit : behind.takeWhile Text.isDigit = [])
    {cause : Fault} (refused : convertDecimal spelling.sign spelling.whole [] = .error cause) :
    decimal (spelling.text ++ behind) = .fault cause := by
  rw [sign] at refused
  rw [text_append, sign, decimal_of_whole spelling.negative spelling.nonempty
    spelling.wholeDigits (spelling.tail_stops noDigit), refused]

theorem Ends.decimal_of_not_denotes {spelling : Spelling} {behind : Text}
    (ends : spelling.Ends behind) (valueless : forall value, ¬ spelling.Denotes value) :
    ∃ cause, decimal (spelling.text ++ behind) = .fault cause := by
  cases wholeConverted : convertDecimal spelling.sign spelling.whole [] with
  | error cause => exact ⟨cause, spelling.decimal_of_error ends.noDigit wholeConverted⟩
  | ok wholeValue =>
      cases converted : convertDecimal spelling.sign spelling.whole spelling.fraction with
      | error cause =>
          refine ⟨cause, ?_⟩
          rw [ends.decimal_eq wholeConverted, converted]
          rfl
      | ok value => exact absurd (denotes_iff.mpr converted) (valueless value)

end Spelling

/-- A text starts with a longest spelling, which is converted or ends the parse in a fault,
or with none. -/
theorem decimal_cases (text : Text) :
    (∃ (spelling : Spelling) (behind : Text) (value : Double), text = spelling.text ++ behind ∧
      spelling.IsLongest text ∧ spelling.Denotes value ∧ decimal text = .success value behind) ∨
    (∃ (spelling : Spelling) (cause : Fault), spelling.IsLongest text ∧
      (forall value, ¬ spelling.Denotes value) ∧ decimal text = .fault cause) ∨
    ∃ rest, (forall spelling : Spelling, ¬ spelling.text <+: text) ∧
      decimal text = .failure rest := by
  rcases Spelling.exists_ends text with ⟨spelling, behind, rfl, ends⟩ | ⟨⟨rest, fails⟩, none⟩
  · by_cases valueless : forall value, ¬ spelling.Denotes value
    · rcases ends.decimal_of_not_denotes valueless with ⟨cause, breaks⟩
      exact .inr (.inl ⟨spelling, cause, ends.isLongest, valueless, breaks⟩)
    · rcases not_forall_not.mp valueless with ⟨value, denotes⟩
      exact .inl ⟨spelling, behind, value, rfl, ends.isLongest, denotes,
        ends.decimal_of_denotes denotes⟩
  · exact .inr (.inr ⟨rest, none, fails⟩)

/-- A decimal is the longest spelling, if its digits have place values. -/
theorem decimal_eq_success_iff {text rest : Text} {value : Double} :
    decimal text = .success value rest ↔ ∃ spelling : Spelling, text = spelling.text ++ rest ∧
      spelling.IsLongest text ∧ spelling.Denotes value := by
  constructor
  · intro succeeds
    rcases decimal_cases text with ⟨spelling, behind, found, split, longest, denotes, replies⟩ |
      ⟨_, _, _, _, replies⟩ | ⟨_, _, replies⟩
    · rw [replies] at succeeds
      cases succeeds
      exact ⟨spelling, split, longest, denotes⟩
    · rw [replies] at succeeds
      cases succeeds
    · rw [replies] at succeeds
      cases succeeds
  · rintro ⟨spelling, rfl, longest, denotes⟩
    exact longest.ends.decimal_of_denotes denotes

/-- Reading a decimal gives up where no spelling starts. -/
theorem decimal_fails_iff {text : Text} :
    decimal.Fails text ↔ forall spelling : Spelling, ¬ spelling.text <+: text := by
  constructor
  · rintro ⟨last, fails⟩
    rcases decimal_cases text with ⟨_, _, _, _, _, _, replies⟩ | ⟨_, _, _, _, replies⟩ |
      ⟨_, none, _⟩
    · rw [replies] at fails
      cases fails
    · rw [replies] at fails
      cases fails
    · exact none
  · intro none
    rcases decimal_cases text with ⟨spelling, _, _, _, longest, _⟩ | ⟨spelling, _, longest, _⟩ |
      ⟨rest, _, replies⟩
    · exact absurd longest.starts (none spelling)
    · exact absurd longest.starts (none spelling)
    · exact ⟨rest, replies⟩

/-- Reading a decimal ends in a fault where the longest spelling has no value. -/
theorem decimal_eq_fault_iff {text : Text} :
    (∃ cause, decimal text = .fault cause) ↔ ∃ spelling : Spelling, spelling.IsLongest text ∧
      forall value, ¬ spelling.Denotes value := by
  constructor
  · rintro ⟨cause, breaks⟩
    rcases decimal_cases text with ⟨_, _, _, _, _, _, replies⟩ |
      ⟨spelling, _, longest, valueless, _⟩ | ⟨_, _, replies⟩
    · rw [replies] at breaks
      cases breaks
    · exact ⟨spelling, longest, valueless⟩
    · rw [replies] at breaks
      cases breaks
  · rintro ⟨spelling, longest, valueless⟩
    rcases longest.starts with ⟨behind, rfl⟩
    exact longest.ends.decimal_of_not_denotes valueless

end Parser
end SequenceCalculator
