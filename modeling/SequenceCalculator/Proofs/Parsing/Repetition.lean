import SequenceCalculator.Proofs.Parsing.Forward

namespace SequenceCalculator
namespace Parser

/-!
# What a repetition comes to

A repetition makes one attempt after the other.  As long as they succeed and read
something it goes on; the first one that does not is the last.  If that attempt fails,
it leaves no trace, however far it got.  If it succeeds without reading anything, its
value still counts.  There is no other way for the repetition to end, so it is determined
by the chain of successes in front of its last attempt.

For a parser that reads something whenever it succeeds this is the recursive definition
of a repetition.  Items with delimiters between them are a repetition of delimiters with
an item behind each, so no delimiter is read that has no item behind it.
-/

variable {α β : Type}

/-- Successes one behind the other, each of which reads something. -/
inductive Advances (parser : Parser α) : Text -> List α -> Text -> Prop where
  | none (text : Text) : Advances parser text [] text
  | next {text between place : Text} {value : α} {values : List α}
      (succeeds : parser text = .success value between) (reads : between.length < text.length)
      (others : Advances parser between values place) :
      Advances parser text (value :: values) place

/-- What a last attempt at a place makes of the values that were read in front of it. -/
inductive Halts (parser : Parser α) (values : List α) (place : Text) : Reply (List α) -> Prop where
  | fails {last : Text} (gaveUp : parser place = .failure last) :
      Halts parser values place (.success values place)
  | stays {value : α} (succeeds : parser place = .success value place) :
      Halts parser values place (.success (values ++ [value]) place)
  | breaks {cause : Fault} (stops : parser place = .fault cause) :
      Halts parser values place (.fault cause)

theorem Advances.isEnd {parser : Parser α} (forward : parser.Forward) {text place : Text}
    {values : List α} (advances : Advances parser text values place) : place <:+ text := by
  induction advances with
  | none text => exact List.suffix_refl text
  | next succeeds _ _ inductionHypothesis =>
      exact inductionHypothesis.trans (forward.of_success succeeds)

theorem Halts.cons {parser : Parser α} {values : List α} {place : Text} {reply : Reply (List α)}
    (halts : Halts parser values place reply) (value : α) :
    Halts parser (value :: values) place (reply.map (value :: ·)) := by
  cases halts with
  | fails gaveUp => exact .fails gaveUp
  | stays succeeds => exact .stays succeeds
  | breaks stops => exact .breaks stops

/-!
## Rounds and chains
-/

/-- There are never more rounds than the text has characters, and one more. -/
theorem Rounds.le_length {parser : Parser α} (forward : parser.Forward) {text : Text}
    {rounds : Nat} {reply : Reply (List α)} (ends : Rounds parser text rounds reply) :
    rounds ≤ text.length + 1 := by
  induction ends with
  | stops => exact Nat.le_add_left 1 _
  | breaks => exact Nat.le_add_left 1 _
  | stays => exact Nat.le_add_left 1 _
  | goesOn succeeds somethingRead _ inductionHypothesis =>
      have shorter := (forward.of_success succeeds).length_le
      omega

/-- The rounds determine the answer, and no bound that is great enough changes it. -/
theorem Rounds.eq_manyUpTo {parser : Parser α} (forward : parser.Forward) {text : Text}
    {rounds : Nat} {reply : Reply (List α)} (ends : Rounds parser text rounds reply) {bound : Nat}
    (enough : text.length < bound) : reply = parser.manyUpTo bound text := by
  induction ends generalizing bound with
  | stops fails =>
      obtain ⟨bound, rfl⟩ : ∃ fewer, bound = fewer + 1 := ⟨bound - 1, by omega⟩
      rw [Parser.manyUpTo, fails]
  | breaks stops =>
      obtain ⟨bound, rfl⟩ : ∃ fewer, bound = fewer + 1 := ⟨bound - 1, by omega⟩
      rw [Parser.manyUpTo, stops]
  | stays succeeds nothingRead =>
      obtain ⟨bound, rfl⟩ : ∃ fewer, bound = fewer + 1 := ⟨bound - 1, by omega⟩
      rw [Parser.manyUpTo, succeeds]
      exact (if_pos nothingRead).symm
  | goesOn succeeds somethingRead _ inductionHypothesis =>
      obtain ⟨bound, rfl⟩ : ∃ fewer, bound = fewer + 1 := ⟨bound - 1, by omega⟩
      have shorter := (forward.of_success succeeds).length_le
      rw [Parser.manyUpTo, succeeds, @inductionHypothesis bound (by omega)]
      dsimp only
      rw [if_neg somethingRead, map_eq]

theorem Forward.manyUpTo_eq {parser : Parser α} (forward : parser.Forward) {text : Text}
    {bound : Nat} (enough : text.length < bound) :
    parser.manyUpTo bound text = parser.many text := by
  rcases forward.rounds_manyUpTo enough with ⟨_, _, ends⟩
  exact ends.eq_manyUpTo forward (Nat.lt_succ_self _)

/-- The rounds in front of the last one are a chain of successes. -/
theorem Rounds.exists_chain {parser : Parser α} (forward : parser.Forward) {text : Text}
    {rounds : Nat} {reply : Reply (List α)} (ends : Rounds parser text rounds reply) :
    ∃ values place, Advances parser text values place ∧ Halts parser values place reply ∧
      rounds = values.length + 1 := by
  induction ends with
  | @stops text rest fails => exact ⟨[], text, .none text, .fails fails, rfl⟩
  | @breaks text cause stops => exact ⟨[], text, .none text, .breaks stops, rfl⟩
  | @stays text rest value succeeds nothingRead =>
      obtain rfl : rest = text := (forward.of_success succeeds).eq_of_length nothingRead
      exact ⟨[], rest, .none rest, .stays succeeds, rfl⟩
  | @goesOn text between value rounds reply succeeds somethingRead _ inductionHypothesis =>
      rcases inductionHypothesis with ⟨values, place, advances, halts, counted⟩
      have shorter := (forward.of_success succeeds).length_le
      exact ⟨value :: values, place, .next succeeds (by omega) advances, halts.cons value,
        congrArg Nat.succ counted⟩

/-- A chain of successes and what comes behind it are rounds. -/
theorem Advances.exists_rounds {parser : Parser α} {text place : Text} {values : List α}
    {reply : Reply (List α)} (advances : Advances parser text values place)
    (halts : Halts parser values place reply) : ∃ rounds, Rounds parser text rounds reply := by
  induction advances generalizing reply with
  | none text =>
      cases halts with
      | fails gaveUp => exact ⟨1, .stops gaveUp⟩
      | stays succeeds => exact ⟨1, .stays succeeds rfl⟩
      | breaks stops => exact ⟨1, .breaks stops⟩
  | next succeeds reads _ inductionHypothesis =>
      have somethingRead := Nat.ne_of_lt reads
      cases halts with
      | fails gaveUp =>
          rcases inductionHypothesis (.fails gaveUp) with ⟨rounds, later⟩
          exact ⟨rounds + 1, .goesOn succeeds somethingRead later⟩
      | stays staysThere =>
          rcases inductionHypothesis (.stays staysThere) with ⟨rounds, later⟩
          exact ⟨rounds + 1, .goesOn succeeds somethingRead later⟩
      | breaks stops =>
          rcases inductionHypothesis (.breaks stops) with ⟨rounds, later⟩
          exact ⟨rounds + 1, .goesOn succeeds somethingRead later⟩

section Many

variable {parser : Parser α} (forward : parser.Forward) {text : Text}
include forward

/-- A repetition is determined by a chain of successes and the attempt behind it. -/
theorem Forward.many_eq_iff {reply : Reply (List α)} :
    parser.many text = reply ↔
      ∃ values place, Advances parser text values place ∧ Halts parser values place reply := by
  constructor
  · rintro rfl
    rcases forward.rounds_many text with ⟨_, _, ends⟩
    rcases ends.exists_chain forward with ⟨values, place, advances, halts, _⟩
    exact ⟨values, place, advances, halts⟩
  · rintro ⟨values, place, advances, halts⟩
    rcases advances.exists_rounds halts with ⟨_, ends⟩
    exact (ends.eq_manyUpTo forward (Nat.lt_succ_self _)).symm

theorem Forward.exists_success_of_many
    (faultless : forall place cause, place <:+ text -> parser place ≠ .fault cause) :
    ∃ values rest, parser.many text = .success values rest := by
  rcases forward.many_eq_iff.mp rfl with ⟨values, place, advances, halts⟩
  cases replies : parser.many text with
  | success values rest => exact ⟨values, rest, rfl⟩
  | failure rest => exact absurd replies (many_ne_failure parser text rest)
  | fault cause =>
      rw [replies] at halts
      cases halts with
      | breaks stops => exact absurd stops (faultless place cause (advances.isEnd forward))

/-- Where the first attempt does not succeed without reading anything, a repetition is a
value and a repetition behind it, or nothing. -/
theorem Forward.many_eq_orElse
    (reads : forall value rest, parser text = .success value rest -> rest.length < text.length) :
    parser.many text =
      ((parser.bind fun value => parser.many.map (value :: ·)).orElse (Parser.pure [])) text := by
  rw [Parser.many, Parser.manyUpTo]
  cases found : parser text with
  | failure last => rw [orElse_of_failure _ (bind_of_failure _ found), Parser.pure]
  | fault cause => simp only [Parser.orElse, Parser.bind, found]
  | success value rest =>
      have shorter := reads value rest found
      dsimp only
      rw [if_neg (Nat.ne_of_lt shorter), map_eq, forward.manyUpTo_eq shorter, ← map_eq]
      cases behind : (parser.many.map (value :: ·)) rest with
      | success values last =>
          exact (orElse_of_success _ ((bind_of_success found).trans behind)).symm
      | failure last => exact absurd (map_eq_failure behind) (many_ne_failure parser rest last)
      | fault cause => simp only [Parser.orElse, Parser.bind, found, behind]

end Many

/-!
## Delimiters
-/

/-- Items one behind the other with a delimiter between neighbours. -/
inductive Separated (parser : Parser α) (delimiter : Parser β) :
    Text -> List α -> Text -> Prop where
  | last {text rest : Text} {value : α} (succeeds : parser text = .success value rest) :
      Separated parser delimiter text [value] rest
  | more {text between behind rest : Text} {value : α} {mark : β} {values : List α}
      (succeeds : parser text = .success value between)
      (delimits : delimiter between = .success mark behind)
      (others : Separated parser delimiter behind values rest) :
      Separated parser delimiter text (value :: values) rest

variable {parser : Parser α} {delimiter : Parser β}

/-- A delimiter with an item behind it is one more item. -/
theorem Separated.of_advances {text between place rest : Text} {first : α} {values others : List α}
    (succeeds : parser text = .success first between)
    (advances : Advances (delimiter.skipLeft parser) between values place)
    (halts : Halts (delimiter.skipLeft parser) values place (.success others rest)) :
    Separated parser delimiter text (first :: others) rest := by
  induction advances generalizing text first others with
  | none between =>
      cases halts with
      | fails => exact .last succeeds
      | stays stays =>
          rcases bind_eq_success stays with ⟨mark, behind, delimits, found⟩
          exact .more succeeds delimits (.last found)
  | @next between behindItem place value values reads _ _ inductionHypothesis =>
      rcases bind_eq_success reads with ⟨mark, behind, delimits, found⟩
      cases halts with
      | fails gaveUp => exact .more succeeds delimits (inductionHypothesis found (.fails gaveUp))
      | stays stays => exact .more succeeds delimits (inductionHypothesis found (.stays stays))

/-- What is read between delimiters ends behind an item, where no other delimiter with an
item behind it follows that would read anything. -/
theorem Forward.separated_of_delimitedBy (forward : parser.Forward)
    (forwardDelimiter : delimiter.Forward) {text rest : Text} {values : List α}
    (succeeds : parser.delimitedBy delimiter text = .success values rest) :
    Separated parser delimiter text values rest ∧
      ((delimiter.skipLeft parser).Fails rest ∨
        ∃ value, delimiter.skipLeft parser rest = .success value rest) := by
  rcases bind_eq_success succeeds with ⟨first, between, found, foundOthers⟩
  rcases map_eq_success foundOthers with ⟨others, isMany, rfl⟩
  rcases (forwardDelimiter.skipLeft forward).many_eq_iff.mp isMany with
    ⟨chain, place, advances, halts⟩
  refine ⟨.of_advances found advances halts, ?_⟩
  cases halts with
  | fails gaveUp => exact .inl ⟨_, gaveUp⟩
  | stays stays => exact .inr ⟨_, stays⟩

/-!
## Repetitions and their definition
-/

/-- The repetition of a parser that moves forward.  It ends after at most one more attempt
than the text has characters, and the attempts determine the answer.  It never gives up, and
only a fault of the parser keeps it from succeeding.  Unless the first attempt succeeds
without reading anything it is a value and a repetition behind it, or nothing.  In any case its
values are those of a chain of successes that read something, and one more if the attempt behind
them succeeds without reading anything.  Items between delimiters end behind an item. -/
theorem many_exact (forward : parser.Forward) (text : Text) :
    ((∃ rounds, Rounds parser text rounds (parser.many text)) ∧
      forall rounds reply, Rounds parser text rounds reply ->
        rounds ≤ text.length + 1 ∧ reply = parser.many text) ∧
    ((forall place cause, place <:+ text -> parser place ≠ .fault cause) ->
      ∃ values rest, parser.many text = .success values rest) ∧
    ((forall value rest, parser text = .success value rest -> rest.length < text.length) ->
      parser.many text =
        ((parser.bind fun value => parser.many.map (value :: ·)).orElse (Parser.pure [])) text) ∧
    (forall reply, parser.many text = reply ↔
      ∃ values place, Advances parser text values place ∧ Halts parser values place reply) ∧
    (forall (β : Type) (delimiter : Parser β), delimiter.Forward -> forall values rest,
      parser.delimitedBy delimiter text = .success values rest ->
        Separated parser delimiter text values rest ∧
          ((delimiter.skipLeft parser).Fails rest ∨
            ∃ value, delimiter.skipLeft parser rest = .success value rest)) := by
  refine ⟨⟨?_, fun rounds reply ends => ⟨ends.le_length forward, ?_⟩⟩,
    forward.exists_success_of_many, forward.many_eq_orElse, fun _ => forward.many_eq_iff,
    fun β delimiter forwardDelimiter values rest =>
      forward.separated_of_delimitedBy forwardDelimiter⟩
  · rcases forward.rounds_many text with ⟨rounds, _, ends⟩
    exact ⟨rounds, ends⟩
  · exact ends.eq_manyUpTo forward (Nat.lt_succ_self _)

/-- Line ends are read as often as possible, which may be never: repeated, they are found
once and then once more without anything to read.  Digits between commas leave a comma at
the end. -/
theorem many_exact_lineEnds :
    (char '\n').many.Forward ∧
    (char '\n').many.many "\n\nx".toList = .success ["\n\n".toList, []] "x".toList ∧
    (∃ rounds, rounds ≤ 4 ∧ Rounds (char '\n').many "\n\nx".toList rounds
      (.success ["\n\n".toList, []] "x".toList)) ∧
    (∃ values place, Advances (char '\n').many "\n\nx".toList values place ∧
      Halts (char '\n').many values place (.success ["\n\n".toList, []] "x".toList)) ∧
    digit.Forward ∧
    digit.many "1,2,".toList =
      ((digit.bind fun value => digit.many.map (value :: ·)).orElse (Parser.pure []))
        "1,2,".toList ∧
    digit.delimitedBy (char ',') "1,2,".toList = .success "12".toList ",".toList ∧
    Separated digit (char ',') "1,2,".toList "12".toList ",".toList := by
  have lineEnds : (char '\n').many.Forward := (Forward.satisfy _).many
  have digits : digit.Forward := .satisfy _
  have found : (char '\n').many.many "\n\nx".toList =
      .success ["\n\n".toList, []] "x".toList := rfl
  have listed : digit.delimitedBy (char ',') "1,2,".toList = .success "12".toList ",".toList := rfl
  have reads (value : Char) (rest : Text) (succeeds : digit "1,2,".toList = .success value rest) :
      rest.length < "1,2,".toList.length := by
    cases (rfl : digit "1,2,".toList = .success '1' ",2,".toList).symm.trans succeeds
    decide
  rcases many_exact lineEnds "\n\nx".toList with ⟨⟨⟨rounds, ends⟩, few⟩, _, _, determined, _⟩
  rcases many_exact digits "1,2,".toList with ⟨_, _, unfolds, _, separates⟩
  have separated := separates Char (char ',') (.satisfy _) _ _ listed
  exact ⟨lineEnds, found, ⟨rounds, (few rounds _ ends).1, ends⟩, (determined _).mp found, digits,
    unfolds reads, listed, separated.1⟩

end Parser
end SequenceCalculator
