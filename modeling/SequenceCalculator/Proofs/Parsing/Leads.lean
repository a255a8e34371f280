import Mathlib.Data.List.DropRight
import SequenceCalculator.Proofs.Parsing.Faultless
import SequenceCalculator.Proofs.Text.Classes

namespace SequenceCalculator

/-!
# What parsers start with

Most parsers of tokens are told apart by the first character that is not a blank: a
parser that starts with one of some characters gives up in front of any other one.
This is how an alternative is known to be out of the question, whatever the text
behind that character is.
-/

namespace Text

/-- The first character that is not a blank. -/
def start? (text : Text) : Option Char := (text.dropWhile isBlank).head?

theorem dropBlanks_idempotent (text : Text) :
    (text.dropWhile isBlank).dropWhile isBlank = text.dropWhile isBlank :=
  List.dropWhile_idempotent isBlank text

@[simp] theorem start?_dropBlanks (text : Text) :
    start? (text.dropWhile isBlank) = start? text := by
  rw [start?, dropBlanks_idempotent, start?]

theorem start?_cons {first : Char} (notBlank : isBlank first = false) (rest : Text) :
    start? (first :: rest) = some first := by
  rw [start?, List.dropWhile_cons_of_neg (by rw [notBlank]; decide), List.head?_cons]

/-- Where a run of characters has ended, no other run of them starts. -/
theorem takeWhile_dropWhile (test : Char -> Bool) (text : Text) :
    (text.dropWhile test).takeWhile test = [] := by
  cases dropped : text.dropWhile test with
  | nil => rfl
  | cons first others =>
      have stops := List.head?_dropWhile_not test text
      rw [dropped] at stops
      exact List.takeWhile_cons_of_neg (by simpa using stops)

/-- A text without blanks. -/
def IsPlain (text : Text) : Prop :=
  forall character, character ∈ text -> isBlank character = false

instance (text : Text) : Decidable text.IsPlain :=
  decidable_of_iff (text.any isBlank = false) (by simp [IsPlain])

/-- No blank passes a test. -/
def NoBlank (test : Char -> Bool) : Prop :=
  forall character, isBlank character = true -> test character = false

theorem NoBlank.isBlank {test : Char -> Bool} (noBlank : NoBlank test) {character : Char}
    (passes : test character = true) : Text.isBlank character = false := by
  cases blank : Text.isBlank character with
  | false => rfl
  | true =>
      rw [noBlank character blank] at passes
      cases passes

/-- A character that passes a test is not one that does not. -/
theorem beq_eq_false_of_test {test : Char -> Bool} {character other : Char}
    (passes : test character = true) (refused : test other = false) :
    (character == other) = false := by
  refine beq_eq_false_iff_ne.mpr ?_
  rintro rfl
  rw [refused] at passes
  cases passes

theorem noBlank_beq {character : Char} (notBlank : isBlank character = false) :
    NoBlank (· == character) :=
  fun _ blank => beq_eq_false_of_test blank notBlank

end Text

namespace Parser

variable {α β : Type}

/-!
## Where parsers in a row give up
-/

theorem Fails.of_bind {parser : Parser α} {next : α -> Parser β} {text : Text}
    (fails : (parser.bind next).Fails text) :
    parser.Fails text ∨
      ∃ value rest, parser text = .success value rest ∧ (next value).Fails rest := by
  rcases fails with ⟨last, gaveUp⟩
  rcases bind_eq_failure gaveUp with atOnce | ⟨value, rest, succeeds, behind⟩
  · exact .inl ⟨last, atOnce⟩
  · exact .inr ⟨value, rest, succeeds, last, behind⟩

theorem Fails.of_map {parser : Parser α} {change : α -> β} {text : Text}
    (fails : (parser.map change).Fails text) : parser.Fails text := by
  rcases fails with ⟨last, gaveUp⟩
  exact ⟨last, map_eq_failure gaveUp⟩

/-!
## What parsers start with
-/

/-- A parser gives up unless the first character that is not a blank passes a
test. -/
def StartsIn (parser : Parser α) (test : Char -> Bool) : Prop :=
  forall text : Text, (forall character, text.start? = some character ->
    test character = false) -> parser.Fails text

namespace StartsIn

variable {parser alternative : Parser α} {test other : Char -> Bool}

theorem lead (starts : parser.StartsIn test) {text rest : Text} {value : α}
    (succeeds : parser text = .success value rest) :
    ∃ character, text.start? = some character ∧ test character = true := by
  have impossible : ¬ parser.Fails text := by
    rintro ⟨last, fails⟩
    rw [succeeds] at fails
    cases fails
  cases leads : text.start? with
  | none =>
      refine absurd (starts text ?_) impossible
      intro character some
      rw [leads] at some
      cases some
  | some character =>
      cases passes : test character with
      | true => exact ⟨character, rfl, passes⟩
      | false =>
          refine absurd (starts text ?_) impossible
          intro another some
          rw [leads] at some
          cases some
          exact passes

/-- Where the first character is known, a test that it does not pass decides. -/
theorem fails_of_lead (starts : parser.StartsIn test) {text : Text} {character : Char}
    (leads : text.start? = some character) (refused : test character = false) :
    parser.Fails text := by
  apply starts
  intro another some
  rw [leads] at some
  cases some
  exact refused

theorem mono (starts : parser.StartsIn test)
    (included : forall character, test character = true -> other character = true) :
    parser.StartsIn other := by
  intro text refused
  apply starts
  intro character leads
  cases passes : test character with
  | false => rfl
  | true => rw [← included character passes, refused character leads]

theorem bind (starts : parser.StartsIn test) (next : α -> Parser β) :
    (parser.bind next).StartsIn test :=
  fun text refused => (starts text refused).bind next

theorem map (starts : parser.StartsIn test) (change : α -> β) :
    (parser.map change).StartsIn test :=
  fun text refused => (starts text refused).map change

theorem orElse (starts : parser.StartsIn test) (alsoStarts : alternative.StartsIn other) :
    (parser.orElse alternative).StartsIn fun character => test character || other character := by
  intro text refused
  apply (starts text ?_).orElse (alsoStarts text ?_)
  · intro character leads
    exact (Bool.or_eq_false_iff.mp (refused character leads)).1
  · intro character leads
    exact (Bool.or_eq_false_iff.mp (refused character leads)).2

theorem token (starts : parser.StartsIn test) : (Parser.token parser).StartsIn test := by
  intro text refused
  rcases starts (text.dropWhile Text.isBlank) (by simpa using refused) with ⟨rest, fails⟩
  exact ⟨rest, token_of_failure fails⟩

end StartsIn

theorem startsIn_symbol {first : Char} (notBlank : Text.isBlank first = false) (others : Text) :
    (symbol (first :: others)).StartsIn (· == first) := by
  intro text refused
  refine ⟨text, ?_⟩
  rw [symbol, if_neg]
  intro starts
  rcases List.isPrefixOf_iff_prefix.mp starts with ⟨rest, rfl⟩
  have different := refused first (Text.start?_cons notBlank _)
  simp at different

theorem startsIn_keyword {first : Char} (notBlank : Text.isBlank first = false)
    (others : Text) : (keyword (first :: others)).StartsIn (· == first) :=
  (startsIn_symbol notBlank others).token

theorem startsIn_satisfy {test : Char -> Bool} (noBlank : Text.NoBlank test) :
    (satisfy test).StartsIn test := by
  intro text refused
  cases text with
  | nil => exact ⟨[], rfl⟩
  | cons first rest =>
      have fails : test first = false := by
        cases blank : Text.isBlank first with
        | true => exact noBlank first blank
        | false => exact refused first (Text.start?_cons blank rest)
      exact ⟨first :: rest, by rw [satisfy, if_neg (by rw [fails]; decide)]⟩

/-!
## What is left over
-/

/-- What is left over starts with none of some characters. -/
def Clear (bars : List Char) (rest : Text) : Prop :=
  forall character, rest.start? = some character -> character ∉ bars

theorem clear_nil (rest : Text) : Clear [] rest := fun _ _ => List.not_mem_nil

theorem Clear.mono {bars fewer : List Char} {rest : Text} (clear : Clear bars rest)
    (included : fewer ⊆ bars) : Clear fewer rest :=
  fun character leads member => clear character leads (included member)

theorem clear_of_lead {bars : List Char} {rest : Text} {character : Char}
    (leads : rest.start? = some character) (free : character ∉ bars) : Clear bars rest := by
  intro another alsoLeads
  rw [leads] at alsoLeads
  cases alsoLeads
  exact free

theorem token_eq_success {parser : Parser α} {text rest : Text} {value : α}
    (succeeds : token parser text = .success value rest) :
    ∃ behind, parser (text.dropWhile Text.isBlank) = .success value behind ∧
      rest = behind.dropWhile Text.isBlank := by
  cases found : parser (text.dropWhile Text.isBlank) with
  | success first behind =>
      rw [token_of_success found] at succeeds
      cases succeeds
      exact ⟨behind, rfl, rfl⟩
  | failure last => rw [token_of_failure found] at succeeds; cases succeeds
  | fault fault => rw [token_of_fault found] at succeeds; cases succeeds

theorem token_eq_failure {parser : Parser α} {text rest : Text}
    (fails : token parser text = .failure rest) :
    parser (text.dropWhile Text.isBlank) = .failure rest := by
  cases found : parser (text.dropWhile Text.isBlank) with
  | success value behind => rw [token_of_success found] at fails; cases fails
  | failure last => rwa [token_of_failure found] at fails
  | fault cause => rw [token_of_fault found] at fails; cases fails

/-- What is left over starts with no blank. -/
def Tidy (parser : Parser α) : Prop :=
  forall (text : Text) (value : α) (rest : Text), parser text = .success value rest ->
    rest.dropWhile Text.isBlank = rest

namespace Tidy

variable {parser alternative : Parser α}

theorem token (parser : Parser α) : (Parser.token parser).Tidy := by
  intro text value rest succeeds
  rcases token_eq_success succeeds with ⟨behind, _, rfl⟩
  exact Text.dropBlanks_idempotent behind

theorem bind (parser : Parser α) {next : α -> Parser β} (tidy : forall value, (next value).Tidy) :
    (parser.bind next).Tidy := by
  intro text result rest succeeds
  rcases bind_eq_success succeeds with ⟨value, between, _, found⟩
  exact tidy value between result rest found

theorem map (tidy : parser.Tidy) (change : α -> β) : (parser.map change).Tidy := by
  intro text result rest succeeds
  rcases map_eq_success succeeds with ⟨value, found, _⟩
  exact tidy text value rest found

theorem orElse (tidy : parser.Tidy) (alsoTidy : alternative.Tidy) :
    (parser.orElse alternative).Tidy := by
  intro text value rest succeeds
  rcases orElse_eq_success succeeds with found | found
  · exact tidy text value rest found
  · exact alsoTidy text value rest found

/-- A repetition may read nothing, so the text in front of it has to start with no
blank. -/
theorem manyUpTo (tidy : parser.Tidy) {bound : Nat} {text rest : Text} {values : List α}
    (trimmed : text.dropWhile Text.isBlank = text)
    (succeeds : parser.manyUpTo bound text = .success values rest) :
    rest.dropWhile Text.isBlank = rest := by
  induction bound generalizing text values with
  | zero => cases succeeds; exact trimmed
  | succ bound inductionHypothesis =>
      rw [Parser.manyUpTo] at succeeds
      split at succeeds
      · cases succeeds
        exact trimmed
      · cases succeeds
      · next value between found =>
        have next := tidy text value between found
        split at succeeds
        · cases succeeds
          exact next
        · rcases map_eq_success succeeds with ⟨_, foundOthers, _⟩
          exact inductionHypothesis next foundOthers

theorem delimitedBy (tidy : parser.Tidy) (delimiter : Parser β) :
    (parser.delimitedBy delimiter).Tidy := by
  intro text values rest succeeds
  rcases bind_eq_success succeeds with ⟨first, behind, found, foundOthers⟩
  rcases map_eq_success foundOthers with ⟨others, isMany, _⟩
  have items : (delimiter.skipLeft parser).Tidy := .bind delimiter fun _ => tidy
  exact items.manyUpTo (tidy text first behind found) isMany

end Tidy

end Parser
end SequenceCalculator
