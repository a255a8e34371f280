import Mathlib.Data.List.TakeWhile
import SequenceCalculator.Parsing.Numeral

namespace SequenceCalculator
namespace Parser

/-!
# What the combinators reply

Equations and inversions for the replies of the general combinators.  Runs of
characters are described completely: `many` of a character test takes the longest
run of characters that pass.  For other parsers a repetition is described by its
steps.  None of this depends on the language that is read.
-/

variable {α β γ : Type}

theorem bind_eq_success {parser : Parser α} {next : α -> Parser β} {text rest : Text}
    {result : β} (succeeds : parser.bind next text = .success result rest) :
    ∃ value between, parser text = .success value between ∧
      next value between = .success result rest := by
  unfold bind at succeeds
  split at succeeds
  · next value between found => exact ⟨value, between, found, succeeds⟩
  · cases succeeds
  · cases succeeds

theorem bind_of_success {parser : Parser α} {next : α -> Parser β} {text rest : Text} {value : α}
    (succeeds : parser text = .success value rest) :
    parser.bind next text = next value rest := by
  simp only [bind, succeeds]

theorem bind_of_failure {parser : Parser α} (next : α -> Parser β) {text rest : Text}
    (fails : parser text = .failure rest) : parser.bind next text = .failure rest := by
  simp only [bind, fails]

theorem map_of_success {parser : Parser α} (change : α -> β) {text rest : Text} {value : α}
    (succeeds : parser text = .success value rest) :
    parser.map change text = .success (change value) rest := by
  simp only [map, succeeds]

theorem map_of_failure {parser : Parser α} (change : α -> β) {text rest : Text}
    (fails : parser text = .failure rest) : parser.map change text = .failure rest := by
  simp only [map, fails]

theorem orElse_of_success {parser : Parser α} (alternative : Parser α) {text rest : Text}
    {value : α} (succeeds : parser text = .success value rest) :
    parser.orElse alternative text = .success value rest := by
  simp only [orElse, succeeds]

theorem orElse_of_failure {parser : Parser α} (alternative : Parser α) {text rest : Text}
    (fails : parser text = .failure rest) :
    parser.orElse alternative text = alternative text := by
  simp only [orElse, fails]

/-- A parser gives up somewhere. -/
def Fails (parser : Parser α) (text : Text) : Prop :=
  ∃ rest, parser text = .failure rest

theorem Fails.bind {parser : Parser α} {text : Text} (fails : parser.Fails text)
    (next : α -> Parser β) : (parser.bind next).Fails text := by
  rcases fails with ⟨rest, gaveUp⟩
  exact ⟨rest, bind_of_failure next gaveUp⟩

theorem Fails.map {parser : Parser α} {text : Text} (fails : parser.Fails text)
    (change : α -> β) : (parser.map change).Fails text := by
  rcases fails with ⟨rest, gaveUp⟩
  exact ⟨rest, map_of_failure change gaveUp⟩

theorem Fails.orElse_eq {parser : Parser α} {text : Text} (fails : parser.Fails text)
    (alternative : Parser α) : parser.orElse alternative text = alternative text := by
  rcases fails with ⟨rest, gaveUp⟩
  exact orElse_of_failure alternative gaveUp

theorem Fails.orElse {parser alternative : Parser α} {text : Text} (fails : parser.Fails text)
    (alsoFails : alternative.Fails text) : (parser.orElse alternative).Fails text := by
  rcases alsoFails with ⟨rest, gaveUp⟩
  exact ⟨rest, (fails.orElse_eq alternative).trans gaveUp⟩

/-- The second of two parsers in a row gives up. -/
theorem fails_bind_of_success {parser : Parser α} {next : α -> Parser β} {text rest : Text}
    {value : α} (succeeds : parser text = .success value rest) (fails : (next value).Fails rest) :
    (parser.bind next).Fails text := by
  rcases fails with ⟨last, gaveUp⟩
  exact ⟨last, (bind_of_success succeeds).trans gaveUp⟩

theorem map_eq_success {parser : Parser α} {change : α -> β} {text rest : Text} {result : β}
    (succeeds : parser.map change text = .success result rest) :
    ∃ value, parser text = .success value rest ∧ result = change value := by
  unfold map at succeeds
  split at succeeds
  · next value between found =>
    cases succeeds
    exact ⟨value, found, rfl⟩
  · cases succeeds
  · cases succeeds

theorem orElse_eq_success {parser alternative : Parser α} {text rest : Text} {value : α}
    (succeeds : parser.orElse alternative text = .success value rest) :
    parser text = .success value rest ∨ alternative text = .success value rest := by
  unfold orElse at succeeds
  split at succeeds
  · next found =>
    cases succeeds
    exact .inl found
  · exact .inr succeeds
  · cases succeeds

/-!
Where a parser gave up exactly is asked for less often than that it did.
-/

theorem bind_eq_failure {parser : Parser α} {next : α -> Parser β} {text rest : Text}
    (fails : parser.bind next text = .failure rest) :
    parser text = .failure rest ∨ ∃ value between, parser text = .success value between ∧
      next value between = .failure rest := by
  unfold bind at fails
  split at fails
  · next value between found => exact .inr ⟨value, between, found, fails⟩
  · next found => cases fails; exact .inl found
  · cases fails

theorem map_eq_failure {parser : Parser α} {change : α -> β} {text rest : Text}
    (fails : parser.map change text = .failure rest) : parser text = .failure rest := by
  unfold map at fails
  split at fails
  · cases fails
  · next found => cases fails; exact found
  · cases fails

/-- Alternatives give up where the last of them does. -/
theorem orElse_eq_failure {parser alternative : Parser α} {text rest : Text}
    (fails : parser.orElse alternative text = .failure rest) :
    alternative text = .failure rest := by
  unfold orElse at fails
  split at fails
  · cases fails
  · exact fails
  · cases fails

theorem satisfy_eq_failure {test : Char -> Bool} {text rest : Text}
    (fails : satisfy test text = .failure rest) : rest = text := by
  cases text with
  | nil => cases fails; rfl
  | cons character others =>
      rw [satisfy] at fails
      split at fails
      · cases fails
      · cases fails; rfl

theorem symbol_eq_failure {literal text rest : Text}
    (fails : symbol literal text = .failure rest) : rest = text := by
  unfold symbol at fails
  split at fails
  · cases fails
  · cases fails; rfl

theorem endOfText_eq_failure {text rest : Text} (fails : endOfText text = .failure rest) :
    rest = text := by
  cases text <;> cases fails
  rfl

/-- A repetition never gives up. -/
theorem many_ne_failure (parser : Parser α) (text rest : Text) :
    parser.many text ≠ .failure rest := by
  have bounded : forall bound text, parser.manyUpTo bound text ≠ .failure rest := by
    intro bound
    induction bound with
    | zero => intro text fails; cases fails
    | succ bound inductionHypothesis =>
        intro text fails
        rw [manyUpTo] at fails
        split at fails
        · cases fails
        · cases fails
        · split at fails
          · cases fails
          · exact inductionHypothesis _ (map_eq_failure fails)
  exact bounded (text.length + 1) text

theorem ofExcept_eq_success {conversion : Except Fault α} {text rest : Text} {value : α}
    (succeeds : ofExcept conversion text = .success value rest) :
    conversion = .ok value ∧ text = rest := by
  cases conversion with
  | error fault => cases succeeds
  | ok converted => cases succeeds; exact ⟨rfl, rfl⟩

theorem symbol_append (literal rest : Text) :
    symbol literal (literal ++ rest) = .success literal rest := by
  have starts : literal.isPrefixOf (literal ++ rest) = true :=
    List.isPrefixOf_iff_prefix.mpr (List.prefix_append literal rest)
  rw [symbol, if_pos starts, List.drop_left]

theorem symbol_eq_success {literal text rest : Text} {value : Text}
    (succeeds : symbol literal text = .success value rest) : text = literal ++ rest := by
  unfold symbol at succeeds
  split at succeeds
  · next starts =>
    cases succeeds
    exact (List.prefix_iff_eq_append.mp (List.isPrefixOf_iff_prefix.mp starts)).symm
  · cases succeeds

theorem char_eq_success {character value : Char} {text rest : Text}
    (succeeds : char character text = .success value rest) : text = character :: rest := by
  cases text with
  | nil => cases succeeds
  | cons first text =>
      rw [char, satisfy] at succeeds
      split at succeeds
      · next same =>
        cases succeeds
        rw [beq_iff_eq.mp same]
      · cases succeeds

/-- A sign is a minus or nothing. -/
theorem sign_eq_success {text rest value : Text} (succeeds : sign text = .success value rest) :
    ∃ negative : Bool, value = (if negative then ['-'] else []) ∧ text = value ++ rest := by
  rcases orElse_eq_success succeeds with found | found
  · rcases map_eq_success found with ⟨character, isMinus, rfl⟩
    exact ⟨true, rfl, char_eq_success isMinus⟩
  · cases found
    exact ⟨false, rfl, rfl⟩

theorem endOfText_eq_success {text rest : Text}
    (succeeds : endOfText text = .success () rest) : text = [] ∧ rest = [] := by
  cases text with
  | nil => cases succeeds; exact ⟨rfl, rfl⟩
  | cons character text => cases succeeds

theorem satisfy_cons_of_true {test : Char -> Bool} {character : Char}
    (passes : test character = true) (rest : Text) :
    satisfy test (character :: rest) = .success character rest := by
  rw [satisfy, if_pos passes]

theorem satisfy_of_stops {test : Char -> Bool} {text : Text}
    (stops : text.takeWhile test = []) : satisfy test text = .failure text := by
  cases text with
  | nil => rfl
  | cons character rest =>
      rw [satisfy, if_neg]
      intro passes
      rw [List.takeWhile_cons_of_pos passes] at stops
      cases stops

/-- Either of two tests is a test. -/
theorem satisfy_orElse (first second : Char -> Bool) :
    (satisfy first).orElse (satisfy second) =
      satisfy fun character => first character || second character := by
  funext text
  cases text with
  | nil => rfl
  | cons character rest =>
      cases passes : first character <;> cases alsoPasses : second character <;>
        simp [orElse, satisfy, passes, alsoPasses]

/-- With a bound that is great enough, a repeated test takes the longest run. -/
theorem manyUpTo_satisfy (test : Char -> Bool) {bound : Nat} {text : Text}
    (enough : text.length < bound) :
    (satisfy test).manyUpTo bound text =
      .success (text.takeWhile test) (text.dropWhile test) := by
  induction bound generalizing text with
  | zero => omega
  | succ bound inductionHypothesis =>
      cases text with
      | nil => rfl
      | cons character rest =>
          cases passes : test character with
          | false =>
              rw [manyUpTo, satisfy, if_neg (by rw [passes]; decide)]
              simp only [List.takeWhile, List.dropWhile, passes]
          | true =>
              have shorter : ¬ rest.length = (character :: rest).length := by
                simp only [List.length_cons]
                omega
              have tail := @inductionHypothesis rest (by simpa using enough)
              rw [manyUpTo, satisfy_cons_of_true passes]
              simp only [if_neg shorter, map, tail, List.takeWhile, List.dropWhile, passes]

theorem many_satisfy (test : Char -> Bool) (text : Text) :
    (satisfy test).many text = .success (text.takeWhile test) (text.dropWhile test) :=
  manyUpTo_satisfy test (Nat.lt_succ_self _)

theorem many_satisfy_eq_success {test : Char -> Bool} {text rest values : Text}
    (succeeds : (satisfy test).many text = .success values rest) :
    text = values ++ rest ∧ forall character, character ∈ values -> test character = true := by
  rw [many_satisfy] at succeeds
  cases succeeds
  exact ⟨List.takeWhile_append_dropWhile.symm, fun _ => List.mem_takeWhile_imp⟩

/-- A token skips the blanks on both sides. -/
theorem token_of_success {parser : Parser α} {text rest : Text} {value : α}
    (succeeds : parser (text.dropWhile Text.isBlank) = .success value rest) :
    token parser text = .success value (rest.dropWhile Text.isBlank) := by
  simp only [token, between, skipLeft, skipRight, mapTo, bind, map, blank, many_satisfy, succeeds]

theorem token_of_failure {parser : Parser α} {text rest : Text}
    (fails : parser (text.dropWhile Text.isBlank) = .failure rest) :
    token parser text = .failure rest := by
  simp only [token, between, skipLeft, skipRight, bind, blank, many_satisfy, fails]

/-- Blanks in front of a token do not matter. -/
theorem token_congr (parser : Parser α) {first second : Text}
    (same : first.dropWhile Text.isBlank = second.dropWhile Text.isBlank) :
    token parser first = token parser second := by
  simp only [token, between, skipLeft, bind, blank, many_satisfy, same]

theorem atLeastOne_satisfy (test : Char -> Bool) (text : Text) :
    (satisfy test).atLeastOne text =
      if text.takeWhile test = [] then .failure text
      else .success (text.takeWhile test) (text.dropWhile test) := by
  cases text with
  | nil => rfl
  | cons character rest =>
      cases passes : test character with
      | false => simp [atLeastOne, bind, satisfy, passes]
      | true => simp [atLeastOne, bind, satisfy, passes, map, many_satisfy]

/-- A run ends in front of a text that does not start with a character that
passes. -/
theorem many_satisfy_append {test : Char -> Bool} {run rest : Text}
    (passes : forall character, character ∈ run -> test character = true)
    (stops : rest.takeWhile test = []) :
    (satisfy test).many (run ++ rest) = .success run rest := by
  have whole := List.takeWhile_append_dropWhile (p := test) (l := rest)
  rw [stops, List.nil_append] at whole
  rw [many_satisfy, List.takeWhile_append_of_pos passes, List.dropWhile_append_of_pos passes,
    stops, whole, List.append_nil]

theorem atLeastOne_satisfy_append {test : Char -> Bool} {run rest : Text} (nonempty : run ≠ [])
    (passes : forall character, character ∈ run -> test character = true)
    (stops : rest.takeWhile test = []) :
    (satisfy test).atLeastOne (run ++ rest) = .success run rest := by
  have whole := List.takeWhile_append_dropWhile (p := test) (l := rest)
  rw [stops, List.nil_append] at whole
  rw [atLeastOne_satisfy, List.takeWhile_append_of_pos passes,
    List.dropWhile_append_of_pos passes, stops, whole, List.append_nil, if_neg nonempty]

/-- A repetition step by step: it ends in front of a failure, and every step
before reads something. -/
inductive Repeats (parser : Parser α) : Text -> List α -> Text -> Prop where
  | stop {text rest : Text} (fails : parser text = .failure rest) : Repeats parser text [] text
  | step {text between rest : Text} {value : α} {values : List α}
      (succeeds : parser text = .success value between) (reads : between.length < text.length)
      (goesOn : Repeats parser between values rest) : Repeats parser text (value :: values) rest

theorem many_of_repeats {parser : Parser α} {text rest : Text} {values : List α}
    (repeats : Repeats parser text values rest) : parser.many text = .success values rest := by
  have bounded : forall bound, text.length < bound ->
      parser.manyUpTo bound text = .success values rest := by
    intro bound enough
    induction repeats generalizing bound with
    | stop fails =>
        obtain ⟨bound, rfl⟩ : ∃ fewer, bound = fewer + 1 := ⟨bound - 1, by omega⟩
        rw [manyUpTo, fails]
    | step succeeds reads goesOn inductionHypothesis =>
        obtain ⟨bound, rfl⟩ : ∃ fewer, bound = fewer + 1 := ⟨bound - 1, by omega⟩
        have rest := inductionHypothesis bound (by omega)
        rw [manyUpTo, succeeds]
        simp only [if_neg (Nat.ne_of_lt reads), map, rest]
  exact bounded _ (Nat.lt_succ_self _)

/-- Where every step reads something, a repetition is nothing but its steps. -/
theorem repeats_of_many {parser : Parser α}
    (shortens : forall text value rest, parser text = .success value rest ->
      rest.length < text.length) {text rest : Text} {values : List α}
    (succeeds : parser.many text = .success values rest) : Repeats parser text values rest := by
  have bounded : forall bound text values, text.length < bound ->
      parser.manyUpTo bound text = .success values rest -> Repeats parser text values rest := by
    intro bound
    induction bound with
    | zero => intro text values enough; omega
    | succ bound inductionHypothesis =>
        intro text values enough goesOn
        rw [manyUpTo] at goesOn
        split at goesOn
        · next found =>
          cases goesOn
          exact .stop found
        · cases goesOn
        · next value between found =>
          have reads := shortens text value between found
          rw [if_neg (Nat.ne_of_lt reads)] at goesOn
          rcases map_eq_success goesOn with ⟨others, foundOthers, rfl⟩
          exact .step found reads (inductionHypothesis between others (by omega) foundOthers)
  exact bounded _ text values (Nat.lt_succ_self _) succeeds

end Parser
end SequenceCalculator
