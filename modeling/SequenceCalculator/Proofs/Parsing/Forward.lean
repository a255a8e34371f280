import SequenceCalculator.Proofs.Parsing.Replies

namespace SequenceCalculator

/-!
# Reading moves forward

What a parser leaves over is an end of the text that it was given, whether it
succeeds or gives up.  Every combinator keeps this property.

A repetition is described here once more without the bound that `many` carries,
round by round.  A parser that moves forward either leaves less over than before or
ends the repetition, so there are at most as many rounds as the text has characters,
and one more; the bound of `many` is never reached.
-/

namespace Reply

variable {α β : Type}

/-- What is left over.  A fault leaves nothing to go on with. -/
def rest? : Reply α -> Option Text
  | success _ rest => some rest
  | failure rest => some rest
  | fault _ => none

/-- Changes the value of a success. -/
def map (reply : Reply α) (change : α -> β) : Reply β :=
  match reply with
  | success value rest => success (change value) rest
  | failure rest => failure rest
  | fault cause => fault cause

@[simp] theorem rest?_map (reply : Reply α) (change : α -> β) :
    (reply.map change).rest? = reply.rest? := by
  cases reply <;> rfl

end Reply

namespace Parser

variable {α β γ : Type}

/-- What is left over is always an end of the text. -/
def Forward (parser : Parser α) : Prop :=
  forall text rest, (parser text).rest? = some rest -> rest <:+ text

theorem map_eq (parser : Parser α) (change : α -> β) (text : Text) :
    parser.map change text = (parser text).map change := by
  rw [map]
  cases parser text <;> rfl

namespace Forward

variable {parser alternative : Parser α}

theorem of_success (forward : parser.Forward) {text rest : Text} {value : α}
    (succeeds : parser text = .success value rest) : rest <:+ text :=
  forward text rest (by rw [succeeds]; rfl)

theorem of_failure (forward : parser.Forward) {text rest : Text}
    (fails : parser text = .failure rest) : rest <:+ text :=
  forward text rest (by rw [fails]; rfl)

theorem pure (value : α) : (Parser.pure value).Forward := by
  rintro text rest ⟨rfl⟩
  exact List.suffix_refl text

theorem abort (cause : Fault) : (Parser.abort cause : Parser α).Forward := by
  rintro text rest ⟨⟩

theorem ofExcept (conversion : Except Fault α) : (Parser.ofExcept conversion).Forward := by
  cases conversion with
  | ok value => exact pure value
  | error cause => exact abort cause

theorem satisfy (test : Char -> Bool) : (Parser.satisfy test).Forward := by
  intro text rest left
  cases text with
  | nil => cases left; exact List.suffix_refl _
  | cons first others =>
      rw [Parser.satisfy] at left
      split at left
      · cases left
        exact List.suffix_cons _ _
      · cases left
        exact List.suffix_refl _

theorem symbol (literal : Text) : (Parser.symbol literal).Forward := by
  intro text rest left
  rw [Parser.symbol] at left
  split at left
  · cases left
    exact List.drop_suffix _ text
  · cases left
    exact List.suffix_refl text

theorem endOfText : Parser.endOfText.Forward := by
  intro text rest left
  cases text <;> cases left <;> exact List.suffix_refl _

theorem bind {next : α -> Parser β} (forward : parser.Forward)
    (forwardNext : forall value, (next value).Forward) : (parser.bind next).Forward := by
  intro text rest left
  cases found : parser text with
  | success value between =>
      rw [bind_of_success found] at left
      exact (forwardNext value between rest left).trans (forward.of_success found)
  | failure last =>
      rw [bind_of_failure next found] at left
      cases left
      exact forward.of_failure found
  | fault cause =>
      simp only [Parser.bind, found] at left
      cases left

theorem map (forward : parser.Forward) (change : α -> β) : (parser.map change).Forward := by
  intro text rest left
  rw [map_eq, Reply.rest?_map] at left
  exact forward text rest left

theorem orElse (forward : parser.Forward) (alsoForward : alternative.Forward) :
    (parser.orElse alternative).Forward := by
  intro text rest left
  cases found : parser text with
  | success value between =>
      rw [orElse_of_success alternative found] at left
      cases left
      exact forward.of_success found
  | failure last =>
      rw [orElse_of_failure alternative found] at left
      exact alsoForward text rest left
  | fault cause =>
      simp only [Parser.orElse, found] at left
      cases left

theorem fail : (Parser.fail : Parser α).Forward := by
  rintro text rest ⟨rfl⟩
  exact List.suffix_refl text

theorem firstOf {parsers : List (Parser α)}
    (forward : forall parser, parser ∈ parsers -> parser.Forward) :
    (Parser.firstOf parsers).Forward :=
  List.foldlRecOn parsers _ fail fun _ before parser member =>
    before.orElse (forward parser member)

theorem skipLeft {next : Parser β} (forward : parser.Forward) (forwardNext : next.Forward) :
    (parser.skipLeft next).Forward :=
  forward.bind fun _ => forwardNext

theorem skipRight {next : Parser β} (forward : parser.Forward) (forwardNext : next.Forward) :
    (parser.skipRight next).Forward :=
  forward.bind fun _ => forwardNext.map _

theorem between {left : Parser β} {right : Parser γ} (forward : parser.Forward)
    (forwardLeft : left.Forward) (forwardRight : right.Forward) :
    (parser.between left right).Forward :=
  forwardLeft.skipLeft (forward.skipRight forwardRight)

/-- The induction is on the bound; each round goes on from an end of the text. -/
theorem manyUpTo (forward : parser.Forward) (bound : Nat) : (parser.manyUpTo bound).Forward := by
  induction bound with
  | zero => exact pure []
  | succ bound inductionHypothesis =>
      intro text rest left
      cases found : parser text with
      | success value between =>
          have shorter := forward.of_success found
          rw [Parser.manyUpTo, found] at left
          dsimp only at left
          split at left
          · cases left
            exact shorter
          · rw [map_eq, Reply.rest?_map] at left
            exact (inductionHypothesis between rest left).trans shorter
      | failure last =>
          rw [Parser.manyUpTo, found] at left
          cases left
          exact List.suffix_refl text
      | fault cause =>
          rw [Parser.manyUpTo, found] at left
          cases left

theorem many (forward : parser.Forward) : parser.many.Forward :=
  fun text => forward.manyUpTo (text.length + 1) text

theorem atLeastOne (forward : parser.Forward) : parser.atLeastOne.Forward :=
  forward.bind fun _ => forward.many.map _

theorem delimitedBy {delimiter : Parser β} (forward : parser.Forward)
    (forwardDelimiter : delimiter.Forward) : (parser.delimitedBy delimiter).Forward :=
  forward.bind fun _ => (forwardDelimiter.skipLeft forward).many.map _

theorem token (forward : parser.Forward) : (Parser.token parser).Forward :=
  forward.between (satisfy _).many (satisfy _).many

theorem keyword (literal : Text) : (Parser.keyword literal).Forward :=
  (symbol literal).token

end Forward

/-!
## Rounds of a repetition
-/

/-- A repetition round by round: how many attempts are made from a text on, and what
comes of them.  It ends with the first attempt that fails, that is a fault or that
reads nothing; nothing else ends it. -/
inductive Rounds (parser : Parser α) : Text -> Nat -> Reply (List α) -> Prop where
  | stops {text rest : Text} (fails : parser text = .failure rest) :
      Rounds parser text 1 (.success [] text)
  | breaks {text : Text} {cause : Fault} (stops : parser text = .fault cause) :
      Rounds parser text 1 (.fault cause)
  | stays {text rest : Text} {value : α} (succeeds : parser text = .success value rest)
      (nothingRead : rest.length = text.length) : Rounds parser text 1 (.success [value] rest)
  | goesOn {text between : Text} {value : α} {rounds : Nat} {reply : Reply (List α)}
      (succeeds : parser text = .success value between)
      (somethingRead : between.length ≠ text.length) (later : Rounds parser between rounds reply) :
      Rounds parser text (rounds + 1) (reply.map (value :: ·))

/-- With a bound that is great enough a repetition ends by itself. -/
theorem Forward.rounds_manyUpTo {parser : Parser α} (forward : parser.Forward) {bound : Nat}
    {text : Text} (enough : text.length < bound) :
    ∃ rounds, rounds ≤ text.length + 1 ∧
      Rounds parser text rounds (parser.manyUpTo bound text) := by
  induction bound generalizing text with
  | zero => omega
  | succ bound inductionHypothesis =>
      rw [Parser.manyUpTo]
      cases found : parser text with
      | failure last => exact ⟨1, by omega, .stops found⟩
      | fault cause => exact ⟨1, by omega, .breaks found⟩
      | success value between =>
          dsimp only
          split
          · next nothingRead => exact ⟨1, by omega, .stays found nothingRead⟩
          · next somethingRead =>
            have shorter := (forward.of_success found).length_le
            rcases @inductionHypothesis between (by omega) with ⟨rounds, few, ends⟩
            rw [map_eq]
            exact ⟨rounds + 1, by omega, .goesOn found somethingRead ends⟩

/-- Every repetition of a parser that moves forward ends. -/
theorem Forward.rounds_many {parser : Parser α} (forward : parser.Forward) (text : Text) :
    ∃ rounds, rounds ≤ text.length + 1 ∧ Rounds parser text rounds (parser.many text) :=
  forward.rounds_manyUpTo (Nat.lt_succ_self _)

end Parser
end SequenceCalculator
