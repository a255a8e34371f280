import SequenceCalculator.Proofs.Parsing.Replies

namespace SequenceCalculator
namespace Parser

/-!
# Where a fault comes from

A combinator never makes a fault of its own: a fault of the whole is a fault of
one of the parts, at the text that this part was given.  A faultless parser
gives a value or gives up on every text.  Everything that only compares
characters is faultless.
-/

variable {α β : Type}

theorem bind_eq_fault {parser : Parser α} {next : α -> Parser β} {text : Text} {cause : Fault}
    (breaks : parser.bind next text = .fault cause) :
    parser text = .fault cause ∨ ∃ value between, parser text = .success value between ∧
      next value between = .fault cause := by
  unfold bind at breaks
  split at breaks
  · next value between found => exact .inr ⟨value, between, found, breaks⟩
  · cases breaks
  · next found =>
    cases breaks
    exact .inl found

theorem map_eq_fault {parser : Parser α} {change : α -> β} {text : Text} {cause : Fault}
    (breaks : parser.map change text = .fault cause) : parser text = .fault cause := by
  unfold map at breaks
  split at breaks
  · cases breaks
  · cases breaks
  · next found =>
    cases breaks
    exact found

theorem orElse_eq_fault {parser alternative : Parser α} {text : Text} {cause : Fault}
    (breaks : parser.orElse alternative text = .fault cause) :
    parser text = .fault cause ∨ alternative text = .fault cause := by
  unfold orElse at breaks
  split at breaks
  · cases breaks
  · exact .inr breaks
  · next found =>
    cases breaks
    exact .inl found

theorem ofExcept_eq_fault {conversion : Except Fault α} {text : Text} {cause : Fault}
    (breaks : ofExcept conversion text = .fault cause) : conversion = .error cause := by
  cases conversion with
  | error fault => cases breaks; rfl
  | ok value => cases breaks

theorem bind_of_fault {parser : Parser α} (next : α -> Parser β) {text : Text} {cause : Fault}
    (breaks : parser text = .fault cause) : parser.bind next text = .fault cause := by
  simp only [bind, breaks]

theorem map_of_fault {parser : Parser α} (change : α -> β) {text : Text} {cause : Fault}
    (breaks : parser text = .fault cause) : parser.map change text = .fault cause := by
  simp only [map, breaks]

theorem orElse_of_fault {parser : Parser α} (alternative : Parser α) {text : Text} {cause : Fault}
    (breaks : parser text = .fault cause) : parser.orElse alternative text = .fault cause := by
  simp only [orElse, breaks]

theorem token_of_fault {parser : Parser α} {text : Text} {cause : Fault}
    (breaks : parser (text.dropWhile Text.isBlank) = .fault cause) :
    token parser text = .fault cause := by
  simp only [token, between, skipLeft, skipRight, bind, blank, many_satisfy, breaks]

theorem token_eq_fault {parser : Parser α} {text : Text} {cause : Fault}
    (breaks : token parser text = .fault cause) :
    parser (text.dropWhile Text.isBlank) = .fault cause := by
  cases found : parser (text.dropWhile Text.isBlank) with
  | success value rest => rw [token_of_success found] at breaks; cases breaks
  | failure rest => rw [token_of_failure found] at breaks; cases breaks
  | fault other => rwa [token_of_fault found] at breaks

/-- A parser that gives a value or gives up on every text. -/
def Faultless (parser : Parser α) : Prop :=
  forall text cause, parser text ≠ .fault cause

theorem Faultless.bind {parser : Parser α} {next : α -> Parser β} (faultless : parser.Faultless)
    (faultlessNext : forall value, (next value).Faultless) : (parser.bind next).Faultless := by
  intro text cause breaks
  rcases bind_eq_fault breaks with first | ⟨value, between, _, second⟩
  · exact faultless text cause first
  · exact faultlessNext value between cause second

theorem Faultless.map {parser : Parser α} (faultless : parser.Faultless) (change : α -> β) :
    (parser.map change).Faultless := by
  intro text cause breaks
  exact faultless text cause (map_eq_fault breaks)

theorem Faultless.orElse {parser alternative : Parser α} (faultless : parser.Faultless)
    (alsoFaultless : alternative.Faultless) : (parser.orElse alternative).Faultless := by
  intro text cause breaks
  rcases orElse_eq_fault breaks with first | second
  · exact faultless text cause first
  · exact alsoFaultless text cause second

theorem Faultless.skipRight {parser : Parser α} {next : Parser β} (faultless : parser.Faultless)
    (faultlessNext : next.Faultless) : (parser.skipRight next).Faultless :=
  faultless.bind fun _ => faultlessNext.map _

theorem Faultless.skipLeft {parser : Parser α} {next : Parser β} (faultless : parser.Faultless)
    (faultlessNext : next.Faultless) : (parser.skipLeft next).Faultless :=
  faultless.bind fun _ => faultlessNext

theorem Faultless.token {parser : Parser α} (faultless : parser.Faultless) :
    (Parser.token parser).Faultless := by
  intro text cause breaks
  exact faultless _ cause (token_eq_fault breaks)

theorem faultless_pure (value : α) : (Parser.pure value).Faultless := by
  intro text cause breaks
  cases breaks

theorem faultless_satisfy (test : Char -> Bool) : (satisfy test).Faultless := by
  intro text cause breaks
  cases text with
  | nil => cases breaks
  | cons character rest =>
      rw [satisfy] at breaks
      split at breaks
      · cases breaks
      · cases breaks

theorem faultless_many_satisfy (test : Char -> Bool) : (satisfy test).many.Faultless := by
  intro text cause breaks
  rw [many_satisfy] at breaks
  cases breaks

theorem faultless_atLeastOne_satisfy (test : Char -> Bool) :
    (satisfy test).atLeastOne.Faultless :=
  (faultless_satisfy test).bind fun _ => (faultless_many_satisfy test).map _

theorem faultless_symbol (literal : Text) : (symbol literal).Faultless := by
  intro text cause breaks
  rw [symbol] at breaks
  split at breaks
  · cases breaks
  · cases breaks

theorem faultless_keyword (literal : Text) : (keyword literal).Faultless :=
  (faultless_symbol literal).token

theorem faultless_endOfText : endOfText.Faultless := by
  intro text cause breaks
  cases text with
  | nil => cases breaks
  | cons character rest => cases breaks

theorem faultless_sign : sign.Faultless :=
  ((faultless_satisfy _).map _).orElse (faultless_pure _)

end Parser
end SequenceCalculator
