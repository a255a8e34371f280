import SequenceCalculator.Proofs.Grammar.Soundness

namespace SequenceCalculator

/-!
# What the tokens recognise

Each token is described by the text that it takes, and for every text it is said whether the
token is recognised there.  Numbers and names are taken as far as they go.  A literal text is
compared as a whole, which is the same as comparing it character by character and returning
to its start at the first difference.  All tokens take the blanks around them.
-/

namespace Parser

variable {α β : Type}

/-!
## Replies at a given text
-/

theorem map_eq_success_iff {parser : Parser α} {change : α -> β} {text rest : Text} {result : β} :
    parser.map change text = .success result rest ↔
      ∃ value, parser text = .success value rest ∧ result = change value := by
  refine ⟨map_eq_success, ?_⟩
  rintro ⟨value, succeeds, rfl⟩
  exact map_of_success change succeeds

theorem map_fails_iff {parser : Parser α} {change : α -> β} {text : Text} :
    (parser.map change).Fails text ↔ parser.Fails text :=
  ⟨.of_map, fun fails => fails.map change⟩

theorem map_eq_fault_iff {parser : Parser α} {change : α -> β} {text : Text} {cause : Fault} :
    parser.map change text = .fault cause ↔ parser text = .fault cause :=
  ⟨map_eq_fault, map_of_fault change⟩

theorem token_eq_success_iff {parser : Parser α} {text left : Text} {value : α} :
    token parser text = .success value left ↔
      ∃ behind, parser (text.dropWhile Text.isBlank) = .success value behind ∧
        left = behind.dropWhile Text.isBlank := by
  refine ⟨token_eq_success, ?_⟩
  rintro ⟨behind, succeeds, rfl⟩
  exact token_of_success succeeds

theorem token_fails_iff {parser : Parser α} {text : Text} :
    (token parser).Fails text ↔ parser.Fails (text.dropWhile Text.isBlank) :=
  ⟨fun ⟨rest, fails⟩ => ⟨rest, token_eq_failure fails⟩,
    fun ⟨rest, fails⟩ => ⟨rest, token_of_failure fails⟩⟩

theorem token_eq_fault_iff {parser : Parser α} {text : Text} {cause : Fault} :
    token parser text = .fault cause ↔ parser (text.dropWhile Text.isBlank) = .fault cause :=
  ⟨token_eq_fault, token_of_fault⟩

/-- Without faults, a parser gives up wherever it does not succeed. -/
theorem Faultless.fails_iff {parser : Parser α} (faultless : parser.Faultless) {text : Text} :
    parser.Fails text ↔ ¬ ∃ value rest, parser text = .success value rest := by
  cases replies : parser text with
  | success value rest => simp [Fails, replies]
  | failure rest => simp [Fails, replies]
  | fault cause => exact absurd replies (faultless text cause)

/-- One or more characters are the longest run of them. -/
theorem atLeastOne_satisfy_eq_success_iff {test : Char -> Bool} {text run rest : Text} :
    (satisfy test).atLeastOne text = .success run rest ↔ text = run ++ rest ∧ run ≠ [] ∧
      (forall character, character ∈ run -> test character = true) ∧
      rest.takeWhile test = [] := by
  constructor
  · intro succeeds
    rw [atLeastOne_satisfy] at succeeds
    split at succeeds
    · cases succeeds
    · next nonempty =>
      cases succeeds
      exact ⟨List.takeWhile_append_dropWhile.symm, nonempty, fun _ => List.mem_takeWhile_imp,
        Text.takeWhile_dropWhile test text⟩
  · rintro ⟨rfl, nonempty, passes, stops⟩
    exact atLeastOne_satisfy_append nonempty passes stops

theorem atLeastOne_satisfy_fails_iff {test : Char -> Bool} {text : Text} :
    (satisfy test).atLeastOne.Fails text ↔ text.takeWhile test = [] := by
  rw [Fails, atLeastOne_satisfy]
  split
  · next none => exact ⟨fun _ => none, fun _ => ⟨text, rfl⟩⟩
  · next some => exact ⟨fun ⟨_, fails⟩ => (by cases fails), fun none => absurd none some⟩

/-!
## Literal texts
-/

/-- Gives up where the parser was started, however far it got. -/
def rollback (parser : Parser α) : Parser α := fun text =>
  match parser text with
  | .success value rest => .success value rest
  | .failure _ => .failure text
  | .fault cause => .fault cause

/-- A text compared character by character.  At a difference every comparison returns to
where it started. -/
def characterwise : Text -> Parser Text
  | [] => pure []
  | first :: others =>
      ((char first).bind fun found => (characterwise others).map (found :: ·)).rollback

theorem symbol_eq_characterwise (literal : Text) : symbol literal = characterwise literal := by
  induction literal with
  | nil => rfl
  | cons first others inductionHypothesis =>
      funext text
      rw [characterwise, ← inductionHypothesis]
      cases text with
      | nil => rfl
      | cons character rest =>
          by_cases same : first = character
          · subst same
            by_cases starts : others.isPrefixOf rest = true
            · simp [symbol, rollback, bind, map, char, satisfy, starts]
            · simp [symbol, rollback, bind, map, char, satisfy, starts]
          · have different : ¬ character = first := fun equal => same equal.symm
            simp [symbol, rollback, bind, char, satisfy, same, different]

theorem symbol_eq_success_iff {literal text value rest : Text} :
    symbol literal text = .success value rest ↔ text = literal ++ rest ∧ value = literal := by
  constructor
  · intro succeeds
    obtain rfl := symbol_eq_success succeeds
    rw [symbol_append] at succeeds
    cases succeeds
    exact ⟨rfl, rfl⟩
  · rintro ⟨rfl, rfl⟩
    exact symbol_append value rest

theorem symbol_eq_failure_iff {literal text last : Text} :
    symbol literal text = .failure last ↔ last = text ∧ ¬ literal <+: text := by
  rw [symbol, ← List.isPrefixOf_iff_prefix]
  split
  · next starts => simp [starts]
  · next differs => simp [differs, eq_comm]

theorem symbol_fails_iff {literal text : Text} :
    (symbol literal).Fails text ↔ ¬ literal <+: text := by
  simp only [Fails, symbol_eq_failure_iff, exists_eq_left]

end Parser

namespace Grammar

open Number SequenceCalculator.Parser

variable {text left : Text} {node : Node}

/-!
## The tokens of the language
-/

theorem number_eq_success_iff : number text = .success node left ↔
    ∃ (spelling : Spelling) (behind : Text) (value : Double) (single : Single),
      text.dropWhile Text.isBlank = spelling.text ++ behind ∧
      spelling.IsLongest (text.dropWhile Text.isBlank) ∧ spelling.Denotes value ∧
      value.ConvertsTo single ∧ node = .number single ∧
      left = behind.dropWhile Text.isBlank := by
  have converts (value : Double) (single : Single) :
      value.ConvertsTo single ↔ single = value.convert .single :=
    Floating.convertsTo_iff (by decide)
  simp only [number, token_eq_success_iff, map_eq_success_iff, decimal_eq_success_iff, converts]
  constructor
  · rintro ⟨behind, ⟨value, ⟨spelling, split, longest, denotes⟩, isNode⟩, isLeft⟩
    exact ⟨spelling, behind, value, _, split, longest, denotes, rfl, isNode, isLeft⟩
  · rintro ⟨spelling, behind, value, _, split, longest, denotes, rfl, isNode, isLeft⟩
    exact ⟨behind, ⟨value, ⟨spelling, split, longest, denotes⟩, isNode⟩, isLeft⟩

/-- A point that no digit follows is given back. -/
example : ∃ value, number " 0..5".toList = .success (.number value) "..5".toList := ⟨_, rfl⟩

theorem number_fails_iff : number.Fails text ↔
    forall spelling : Spelling, ¬ spelling.text <+: text.dropWhile Text.isBlank := by
  rw [number, token_fails_iff, map_fails_iff, decimal_fails_iff]

theorem number_eq_fault_iff : (∃ cause, number text = .fault cause) ↔
    ∃ spelling : Spelling, spelling.IsLongest (text.dropWhile Text.isBlank) ∧
      forall value, ¬ spelling.Denotes value := by
  simp only [number, token_eq_fault_iff, map_eq_fault_iff, decimal_eq_fault_iff]

theorem name_eq_success_iff : name text = .success node left ↔
    ∃ run behind : Text, text.dropWhile Text.isBlank = run ++ behind ∧ run ≠ [] ∧
      (forall character, character ∈ run -> Text.isLetter character = true) ∧
      behind.takeWhile Text.isLetter = [] ∧ node = .name run ∧
      left = behind.dropWhile Text.isBlank := by
  simp only [name, word, letter, map_eq_success_iff, token_eq_success_iff,
    atLeastOne_satisfy_eq_success_iff]
  constructor
  · rintro ⟨run, ⟨behind, ⟨split, nonempty, letters, stops⟩, isLeft⟩, isNode⟩
    exact ⟨run, behind, split, nonempty, letters, stops, isNode, isLeft⟩
  · rintro ⟨run, behind, split, nonempty, letters, stops, isNode, isLeft⟩
    exact ⟨run, ⟨behind, ⟨split, nonempty, letters, stops⟩, isLeft⟩, isNode⟩

theorem name_fails_iff : name.Fails text ↔
    ¬ ∃ first others, text.dropWhile Text.isBlank = first :: others ∧
      Text.isLetter first = true := by
  rw [name, word, letter, map_fails_iff, token_fails_iff, atLeastOne_satisfy_fails_iff]
  cases text.dropWhile Text.isBlank with
  | nil => simp
  | cons first others => cases isLetter : Text.isLetter first <;> simp [isLetter]

theorem string_eq_success_iff : string text = .success node left ↔
    ∃ content behind : Text, text.dropWhile Text.isBlank = '"' :: (content ++ '"' :: behind) ∧
      (forall character, character ∈ content -> Text.isLetter character = true ∨
        Text.isDigit character = true ∨ Text.isBlank character = true) ∧
      node = .string content ∧ left = behind.dropWhile Text.isBlank := by
  simp only [string, map_eq_success_iff, token_eq_success_iff, quoted_eq_success_iff]
  constructor
  · rintro ⟨content, ⟨behind, ⟨split, allowed⟩, isLeft⟩, isNode⟩
    exact ⟨content, behind, split, allowed, isNode, isLeft⟩
  · rintro ⟨content, behind, split, allowed, isNode, isLeft⟩
    exact ⟨content, ⟨behind, ⟨split, allowed⟩, isLeft⟩, isNode⟩

theorem faultless_string : string.Faultless := by
  rw [string, stringCharacter_eq]
  exact (((faultless_satisfy _).skipLeft
    ((faultless_many_satisfy _).skipRight (faultless_satisfy _))).token).map _

theorem string_fails_iff : string.Fails text ↔
    ¬ ∃ content behind : Text, text.dropWhile Text.isBlank = '"' :: (content ++ '"' :: behind) ∧
      forall character, character ∈ content -> Text.isLetter character = true ∨
        Text.isDigit character = true ∨ Text.isBlank character = true := by
  rw [faultless_string.fails_iff, not_iff_not]
  simp only [string_eq_success_iff]
  constructor
  · rintro ⟨_, _, content, behind, split, allowed, _⟩
    exact ⟨content, behind, split, allowed⟩
  · rintro ⟨content, behind, split, allowed⟩
    exact ⟨_, _, content, behind, split, allowed, rfl, rfl⟩

theorem keyword_eq_success_iff {literal value : Text} :
    keyword literal text = .success value left ↔
      ∃ behind, text.dropWhile Text.isBlank = literal ++ behind ∧ value = literal ∧
        left = behind.dropWhile Text.isBlank := by
  simp only [keyword, token_eq_success_iff, symbol_eq_success_iff, and_assoc]

theorem keyword_fails_iff {literal : Text} :
    (keyword literal).Fails text ↔ ¬ literal <+: text.dropWhile Text.isBlank := by
  rw [keyword, token_fails_iff, symbol_fails_iff]

/-- Behind the blanks at the start of a text, a number is the longest spelling of a decimal
whose digits have place values; it is rounded to the nearest double and that to single
precision.  Where no decimal is spelled it gives up, and a longest spelling without a value
is a fault.  A name is the longest run of letters, a string is what stands between
two quotation marks if that is letters, digits and blanks, and a keyword is its own text;
each of them gives up everywhere else.  All of them leave over what stands behind the blanks
that follow.  A literal text is compared character by character, and where it differs
nothing of it is taken. -/
theorem tokens_exact (text : Text) :
    ((forall node left, number text = .success node left ↔
        ∃ (spelling : Spelling) (behind : Text) (value : Double) (single : Single),
          text.dropWhile Text.isBlank = spelling.text ++ behind ∧
          spelling.IsLongest (text.dropWhile Text.isBlank) ∧ spelling.Denotes value ∧
          value.ConvertsTo single ∧ node = .number single ∧
          left = behind.dropWhile Text.isBlank) ∧
      (number.Fails text ↔
        forall spelling : Spelling, ¬ spelling.text <+: text.dropWhile Text.isBlank) ∧
      ((∃ cause, number text = .fault cause) ↔
        ∃ spelling : Spelling, spelling.IsLongest (text.dropWhile Text.isBlank) ∧
          forall value, ¬ spelling.Denotes value)) ∧
    ((forall node left, name text = .success node left ↔
        ∃ run behind : Text, text.dropWhile Text.isBlank = run ++ behind ∧ run ≠ [] ∧
          (forall character, character ∈ run -> Text.isLetter character = true) ∧
          behind.takeWhile Text.isLetter = [] ∧ node = .name run ∧
          left = behind.dropWhile Text.isBlank) ∧
      (name.Fails text ↔
        ¬ ∃ first others, text.dropWhile Text.isBlank = first :: others ∧
          Text.isLetter first = true)) ∧
    ((forall node left, string text = .success node left ↔
        ∃ content behind : Text,
          text.dropWhile Text.isBlank = '"' :: (content ++ '"' :: behind) ∧
          (forall character, character ∈ content -> Text.isLetter character = true ∨
            Text.isDigit character = true ∨ Text.isBlank character = true) ∧
          node = .string content ∧ left = behind.dropWhile Text.isBlank) ∧
      (string.Fails text ↔
        ¬ ∃ content behind : Text,
          text.dropWhile Text.isBlank = '"' :: (content ++ '"' :: behind) ∧
          forall character, character ∈ content -> Text.isLetter character = true ∨
            Text.isDigit character = true ∨ Text.isBlank character = true)) ∧
    forall literal : Text,
      (forall value left, keyword literal text = .success value left ↔
        ∃ behind, text.dropWhile Text.isBlank = literal ++ behind ∧ value = literal ∧
          left = behind.dropWhile Text.isBlank) ∧
      ((keyword literal).Fails text ↔ ¬ literal <+: text.dropWhile Text.isBlank) ∧
      symbol literal text = characterwise literal text ∧
      (forall value rest, symbol literal text = .success value rest ↔
        text = literal ++ rest ∧ value = literal) ∧
      forall last, symbol literal text = .failure last ↔ last = text ∧ ¬ literal <+: text :=
  ⟨⟨fun _ _ => number_eq_success_iff, number_fails_iff, number_eq_fault_iff⟩,
    ⟨fun _ _ => name_eq_success_iff, name_fails_iff⟩,
    ⟨fun _ _ => string_eq_success_iff, string_fails_iff⟩,
    fun literal => ⟨fun _ _ => keyword_eq_success_iff, keyword_fails_iff,
      congrFun (symbol_eq_characterwise literal) text, fun _ _ => symbol_eq_success_iff,
      fun _ => symbol_eq_failure_iff⟩⟩

end Grammar
end SequenceCalculator
