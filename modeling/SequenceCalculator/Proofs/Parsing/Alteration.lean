import SequenceCalculator.Proofs.Parsing.Forward
import SequenceCalculator.Proofs.Parsing.Leads

namespace SequenceCalculator

/-!
# Reading a text that was altered behind the reader's back

What a parser makes of a text may change when the text is cut off, goes on or is
spaced differently, even if the parser never got to the place of the change: a word
may become longer, a repetition may go on, and an alternative that failed may succeed.
An alteration is a relation between texts that leaves alone what a token is made of.
The laws say for every combinator that a success stays a success with the same value,
and that the texts left over are related again.

Nothing is said about failures in general, and what fails on one text may well succeed
on the other.  That an alternative fails on the altered text is shown from that text
alone: by its first character, or because the alternative behind it succeeds there.
Repetitions have to stop on the altered text where they did on the original one, so
the laws for them exclude what the altered rest may start with.
-/

/-- A way to alter texts.  Some of what is left over may have to stay unread, so the
laws are about texts that cover it. -/
structure Alteration where
  /-- A text and what it is altered to, seen from the same place. -/
  relates : Text -> Text -> Prop
  /-- What has to stay unread is still left over. -/
  covers : Text -> Prop
  covers_of_suffix {rest text : Text} : rest <:+ text -> covers rest -> covers text
  /-- Characters of tokens stay the same, and so do the blanks inside a literal: a
  quotation mark stands behind them. -/
  keeps {character : Char} {rest other : Text} : relates (character :: rest) other ->
    (Text.isBlank character = false ∨ '"' ∈ rest) -> covers rest ->
    ∃ left, other = character :: left ∧ relates rest left
  /-- No character of a token is made up. -/
  traces {character : Char} {rest left : Text} : Text.isBlank character = false ->
    relates rest (character :: left) -> ∃ behind, rest = character :: behind ∧ relates behind left
  /-- In front of a token the number of blanks does not matter. -/
  dropsBlanks {text other : Text} : relates text other -> text.dropWhile Text.isBlank ≠ [] ->
    relates (text.dropWhile Text.isBlank) (other.dropWhile Text.isBlank)

namespace Alteration

/-- The end of a text is left out.  What counts as left over is never inside that end, and
if the end starts with blanks, it is nothing else. -/
def withoutEnd (remainder : Text) (covers : Text -> Prop)
    (covers_of_suffix : forall {rest text : Text}, rest <:+ text -> covers rest -> covers text)
    (outside : forall {character : Char} {rest : Text}, remainder = character :: rest ->
      (Text.isBlank character = false ∨ '"' ∈ rest) -> ¬ covers rest)
    (trimmed : remainder.dropWhile Text.isBlank ≠ [] ->
      remainder.dropWhile Text.isBlank = remainder) : Alteration where
  relates text other := text = other ++ remainder
  covers := covers
  covers_of_suffix := covers_of_suffix
  keeps := by
    intro character rest other same kept isCovered
    cases other with
    | nil => exact absurd isCovered (outside same.symm kept)
    | cons first left =>
        cases same
        exact ⟨left, rfl, rfl⟩
  traces := by
    rintro character rest left _ rfl
    exact ⟨left ++ remainder, rfl, rfl⟩
  dropsBlanks := by
    rintro text other rfl nonempty
    rw [List.dropWhile_append] at nonempty ⊢
    split
    · next empty =>
      rw [if_pos empty] at nonempty
      rw [trimmed nonempty, List.isEmpty_iff.mp empty, List.nil_append]
    · rfl

variable (alteration : Alteration)

/-- The texts are related up to the blanks in front of them. -/
def Loosely (text other : Text) : Prop :=
  ∃ first second, alteration.relates first second ∧
    first.dropWhile Text.isBlank = text.dropWhile Text.isBlank ∧
    second.dropWhile Text.isBlank = other.dropWhile Text.isBlank

variable {alteration}

theorem loosely_of_relates {text other : Text} (relates : alteration.relates text other) :
    alteration.Loosely text other :=
  ⟨text, other, relates, rfl, rfl⟩

theorem Loosely.dropBlanks {text other : Text} (loosely : alteration.Loosely text other) :
    alteration.Loosely (text.dropWhile Text.isBlank) (other.dropWhile Text.isBlank) := by
  rcases loosely with ⟨first, second, relates, same, alsoSame⟩
  exact ⟨first, second, relates, by rw [same, Text.dropBlanks_idempotent],
    by rw [alsoSame, Text.dropBlanks_idempotent]⟩

theorem Loosely.relates {text other : Text} (loosely : alteration.Loosely text other)
    (nonempty : text.dropWhile Text.isBlank ≠ []) :
    alteration.relates (text.dropWhile Text.isBlank) (other.dropWhile Text.isBlank) := by
  rcases loosely with ⟨first, second, relates, same, alsoSame⟩
  have trimmed := alteration.dropsBlanks relates (by rwa [same])
  rwa [same, alsoSame] at trimmed

/-- A run of characters is kept if none of them is a blank, or if a quotation mark
stands behind it. -/
theorem keeps_append {run rest other : Text} (relates : alteration.relates (run ++ rest) other)
    (plain : run.IsPlain ∨ '"' ∈ rest)
    (covers : alteration.covers rest) :
    ∃ left, other = run ++ left ∧ alteration.relates rest left := by
  induction run generalizing other with
  | nil => exact ⟨other, rfl, relates⟩
  | cons character run inductionHypothesis =>
      have kept : Text.isBlank character = false ∨ '"' ∈ run ++ rest :=
        plain.imp (fun noBlank => noBlank character List.mem_cons_self) (List.mem_append_right run)
      rcases alteration.keeps relates kept
        (alteration.covers_of_suffix (List.suffix_append run rest) covers) with
        ⟨left, rfl, relatesRest⟩
      rcases inductionHypothesis relatesRest
        (plain.imp_left fun noBlank other member => noBlank other (List.mem_cons_of_mem _ member))
        with ⟨last, rfl, relatesLast⟩
      exact ⟨last, rfl, relatesLast⟩

/-- A run that ends in front of a text ends in front of the altered one. -/
theorem stops {rest left : Text} (relates : alteration.relates rest left) {test : Char -> Bool}
    (noBlank : Text.NoBlank test) (stops : rest.takeWhile test = []) :
    left.takeWhile test = [] := by
  cases left with
  | nil => rfl
  | cons first others =>
      refine List.takeWhile_cons_of_neg fun passes => ?_
      rcases alteration.traces (noBlank.isBlank passes) relates with ⟨behind, rfl, _⟩
      rw [List.takeWhile_cons_of_pos passes] at stops
      cases stops

end Alteration

namespace Parser

variable {α β γ : Type} {alteration : Alteration}

/-!
## Characters
-/

/-- A success is the same on the altered text, character by character. -/
structure Follows (alteration : Alteration) (parser : Parser α) : Prop where
  forward : parser.Forward
  follows {text other : Text} {value : α} {rest : Text} : alteration.relates text other ->
    parser text = .success value rest -> alteration.covers rest ->
    ∃ left, parser other = .success value left ∧ alteration.relates rest left

/-- A failure is a failure on the altered text, too. -/
def Refuses (alteration : Alteration) (parser : Parser α) : Prop :=
  forall {text other : Text}, alteration.relates text other -> parser.Fails text ->
    parser.Fails other

namespace Refuses

theorem satisfy {test : Char -> Bool} (noBlank : Text.NoBlank test) :
    Refuses alteration (Parser.satisfy test) := by
  rintro text other relates ⟨last, fails⟩
  cases other with
  | nil => exact ⟨[], rfl⟩
  | cons first others =>
      refine ⟨first :: others, ?_⟩
      rw [Parser.satisfy, if_neg]
      intro passes
      rcases alteration.traces (noBlank.isBlank passes) relates with ⟨behind, rfl, _⟩
      rw [satisfy_cons_of_true passes] at fails
      cases fails

theorem atLeastOne_satisfy {test : Char -> Bool} (noBlank : Text.NoBlank test) :
    Refuses alteration (Parser.satisfy test).atLeastOne := by
  rintro text other relates ⟨last, fails⟩
  refine ⟨other, ?_⟩
  rw [Parser.atLeastOne_satisfy] at fails ⊢
  split at fails
  · next stops => rw [if_pos (alteration.stops relates noBlank stops)]
  · cases fails

/-- A character is traced back, and the parser behind it fails there. -/
theorem char_skipLeft {character : Char} (notBlank : Text.isBlank character = false)
    {parser : Parser α} (refuses : Refuses alteration parser) :
    Refuses alteration ((char character).skipLeft parser) := by
  intro text other relates fails
  cases other with
  | nil =>
      have missing : (char character).Fails [] := ⟨[], rfl⟩
      exact missing.bind _
  | cons first others =>
      by_cases same : (first == character) = true
      · rw [beq_iff_eq] at same
        subst same
        rcases alteration.traces notBlank relates with ⟨behind, rfl, relatesBehind⟩
        have reads (rest : Text) : char first (first :: rest) = .success first rest :=
          satisfy_cons_of_true (by simp) rest
        refine fails_bind_of_success (reads others) (refuses relatesBehind ?_)
        rcases fails.of_bind with ⟨last, missing⟩ | ⟨_, rest, found, failsThere⟩
        · rw [reads behind] at missing
          cases missing
        · rw [reads behind] at found
          cases found
          exact failsThere
      · have missing : (char character).Fails (first :: others) :=
          ⟨first :: others, by rw [char, Parser.satisfy, if_neg same]⟩
        exact missing.bind _

end Refuses

namespace Follows

variable {parser alternative : Parser α}

theorem pure (value : α) : Follows alteration (Parser.pure value) := by
  refine ⟨.pure value, fun {text other found rest} relates succeeds covers => ?_⟩
  cases succeeds
  exact ⟨other, rfl, relates⟩

theorem ofExcept (conversion : Except Fault α) :
    Follows alteration (Parser.ofExcept conversion) := by
  cases conversion with
  | ok value => exact pure value
  | error cause => exact ⟨.abort cause, fun _ succeeds => by cases succeeds⟩

theorem satisfy {test : Char -> Bool} (noBlank : Text.NoBlank test) :
    Follows alteration (Parser.satisfy test) := by
  refine ⟨.satisfy test, fun {text other value rest} relates succeeds covers => ?_⟩
  cases text with
  | nil => cases succeeds
  | cons first others =>
      rw [Parser.satisfy] at succeeds
      split at succeeds
      · next passes =>
        cases succeeds
        rcases alteration.keeps relates (.inl (noBlank.isBlank passes)) covers with
          ⟨left, rfl, relatesRest⟩
        exact ⟨left, satisfy_cons_of_true passes left, relatesRest⟩
      · cases succeeds

theorem symbol {literal : Text} (plain : literal.IsPlain) :
    Follows alteration (Parser.symbol literal) := by
  refine ⟨.symbol literal, fun {text other value rest} relates succeeds covers => ?_⟩
  have split := symbol_eq_success succeeds
  rw [split, symbol_append] at succeeds
  cases succeeds
  rw [split] at relates
  rcases alteration.keeps_append relates (.inl plain) covers with ⟨left, rfl, relatesRest⟩
  exact ⟨left, symbol_append literal left, relatesRest⟩

theorem atLeastOne_satisfy {test : Char -> Bool} (noBlank : Text.NoBlank test) :
    Follows alteration (Parser.satisfy test).atLeastOne := by
  refine ⟨(Forward.satisfy test).atLeastOne,
    fun {text other value rest} relates succeeds covers => ?_⟩
  rw [Parser.atLeastOne_satisfy] at succeeds
  split at succeeds
  · cases succeeds
  · next nonempty =>
    cases succeeds
    have run (character : Char) (member : character ∈ text.takeWhile test) :
        test character = true := List.mem_takeWhile_imp member
    rw [← List.takeWhile_append_dropWhile (p := test) (l := text)] at relates
    rcases alteration.keeps_append relates
      (.inl fun character member => noBlank.isBlank (run character member)) covers with
      ⟨left, rfl, relatesRest⟩
    exact ⟨left, atLeastOne_satisfy_append nonempty run
      (alteration.stops relatesRest noBlank (Text.takeWhile_dropWhile test text)), relatesRest⟩

theorem bind {next : α -> Parser β} (follows : Follows alteration parser)
    (followsNext : forall value, Follows alteration (next value)) :
    Follows alteration (parser.bind next) := by
  refine ⟨follows.forward.bind fun value => (followsNext value).forward,
    fun {text other result rest} relates succeeds covers => ?_⟩
  rcases bind_eq_success succeeds with ⟨value, between, found, foundNext⟩
  have ahead := (followsNext value).forward.of_success foundNext
  rcases follows.follows relates found (alteration.covers_of_suffix ahead covers) with
    ⟨left, foundOther, relatesBetween⟩
  rcases (followsNext value).follows relatesBetween foundNext covers with
    ⟨last, foundLast, relatesRest⟩
  exact ⟨last, (bind_of_success foundOther).trans foundLast, relatesRest⟩

theorem map (follows : Follows alteration parser) (change : α -> β) :
    Follows alteration (parser.map change) := by
  refine ⟨follows.forward.map change, fun {text other result rest} relates succeeds covers => ?_⟩
  rcases map_eq_success succeeds with ⟨value, found, rfl⟩
  rcases follows.follows relates found covers with ⟨left, foundOther, relatesRest⟩
  exact ⟨left, map_of_success change foundOther, relatesRest⟩

theorem orElse (follows : Follows alteration parser) (alsoFollows : Follows alteration alternative)
    (refuses : Refuses alteration parser) : Follows alteration (parser.orElse alternative) := by
  refine ⟨follows.forward.orElse alsoFollows.forward,
    fun {text other value rest} relates succeeds covers => ?_⟩
  cases found : parser text with
  | success first between =>
      rw [orElse_of_success alternative found] at succeeds
      cases succeeds
      rcases follows.follows relates found covers with ⟨left, foundOther, relatesRest⟩
      exact ⟨left, orElse_of_success alternative foundOther, relatesRest⟩
  | failure last =>
      rw [orElse_of_failure alternative found] at succeeds
      rcases alsoFollows.follows relates succeeds covers with ⟨left, foundOther, relatesRest⟩
      exact ⟨left, ((refuses relates ⟨last, found⟩).orElse_eq alternative).trans foundOther,
        relatesRest⟩
  | fault cause =>
      rw [orElse_of_fault alternative found] at succeeds
      cases succeeds

end Follows

/-!
## Tokens and what is made of them
-/

/-- A success is the same on the altered text, unless what is left over there starts
with one of some characters. -/
structure Carries (alteration : Alteration) (bars : List Char) (parser : Parser α) : Prop where
  forward : parser.Forward
  carries {text other : Text} {value : α} {rest : Text} : alteration.Loosely text other ->
    parser text = .success value rest -> alteration.covers rest ->
    ∃ left, alteration.Loosely rest left ∧ (Clear bars left -> parser other = .success value left)

theorem Follows.token {parser : Parser α} (follows : Follows alteration parser)
    (something : parser.Fails []) : Carries alteration [] (Parser.token parser) := by
  refine ⟨follows.forward.token, fun {text other value rest} loosely succeeds covers => ?_⟩
  rcases token_eq_success succeeds with ⟨behind, found, rfl⟩
  have nonempty : text.dropWhile Text.isBlank ≠ [] := by
    intro empty
    rcases something with ⟨last, fails⟩
    rw [empty, fails] at found
    cases found
  have coversBehind := alteration.covers_of_suffix (List.dropWhile_suffix Text.isBlank) covers
  rcases follows.follows (loosely.relates nonempty) found coversBehind with
    ⟨left, foundOther, relatesRest⟩
  exact ⟨left.dropWhile Text.isBlank, (Alteration.loosely_of_relates relatesRest).dropBlanks,
    fun _ => token_of_success foundOther⟩

namespace Carries

variable {parser alternative : Parser α} {bars : List Char}

theorem mono (carries : Carries alteration bars parser) {others : List Char}
    (included : bars ⊆ others) : Carries alteration others parser := by
  refine ⟨carries.forward, fun loosely succeeds covers => ?_⟩
  rcases carries.carries loosely succeeds covers with ⟨left, looselyRest, same⟩
  exact ⟨left, looselyRest, fun clear => same (clear.mono included)⟩

theorem token (carries : Carries alteration bars parser) :
    Carries alteration bars (Parser.token parser) := by
  refine ⟨carries.forward.token, fun {text other value rest} loosely succeeds covers => ?_⟩
  rcases token_eq_success succeeds with ⟨behind, found, rfl⟩
  have coversBehind := alteration.covers_of_suffix (List.dropWhile_suffix Text.isBlank) covers
  rcases carries.carries loosely.dropBlanks found coversBehind with ⟨left, looselyRest, same⟩
  refine ⟨left.dropWhile Text.isBlank, looselyRest.dropBlanks, fun clear => ?_⟩
  refine token_of_success (same fun character leads => clear character ?_)
  rwa [Text.start?_dropBlanks]

theorem keyword {first : Char} {others : Text} (plain : Text.IsPlain (first :: others)) :
    Carries alteration [] (Parser.keyword (first :: others)) :=
  (Follows.symbol plain).token ⟨[], rfl⟩

theorem pure (value : α) : Carries alteration bars (Parser.pure value) := by
  refine ⟨.pure value, fun {text other found rest} loosely succeeds covers => ?_⟩
  cases succeeds
  exact ⟨other, loosely, fun _ => rfl⟩

theorem ofExcept (conversion : Except Fault α) :
    Carries alteration bars (Parser.ofExcept conversion) := by
  cases conversion with
  | ok value => exact pure value
  | error cause => exact ⟨.abort cause, fun _ succeeds => by cases succeeds⟩

/-- What the second parser reads must not start with what the first one excludes. -/
theorem bind {next : α -> Parser β} {last : List Char} (carries : Carries alteration bars parser)
    (carriesNext : forall value, Carries alteration last (next value))
    (clears : forall value text result rest, next value text = .success result rest ->
      Clear last rest -> Clear bars text) : Carries alteration last (parser.bind next) := by
  refine ⟨carries.forward.bind fun value => (carriesNext value).forward,
    fun {text other result rest} loosely succeeds covers => ?_⟩
  rcases bind_eq_success succeeds with ⟨value, between, found, foundNext⟩
  have ahead := (carriesNext value).forward.of_success foundNext
  rcases carries.carries loosely found (alteration.covers_of_suffix ahead covers) with
    ⟨leftBetween, looselyBetween, same⟩
  rcases (carriesNext value).carries looselyBetween foundNext covers with
    ⟨left, looselyRest, sameNext⟩
  refine ⟨left, looselyRest, fun clear => ?_⟩
  have foundLast := sameNext clear
  rw [bind_of_success (same (clears value leftBetween result left foundLast clear))]
  exact foundLast

theorem map (carries : Carries alteration bars parser) (change : α -> β) :
    Carries alteration bars (parser.map change) := by
  refine ⟨carries.forward.map change, fun {text other result rest} loosely succeeds covers => ?_⟩
  rcases map_eq_success succeeds with ⟨value, found, rfl⟩
  rcases carries.carries loosely found covers with ⟨left, looselyRest, same⟩
  exact ⟨left, looselyRest, fun clear => map_of_success change (same clear)⟩

theorem skipLeft {left : Parser β} (carriesLeft : Carries alteration [] left)
    (carries : Carries alteration bars parser) : Carries alteration bars (left.skipLeft parser) :=
  carriesLeft.bind (fun _ => carries) fun _ _ _ _ _ _ => clear_nil _

theorem skipRight {right : Parser β} {test : Char -> Bool}
    (carries : Carries alteration bars parser) (carriesRight : Carries alteration [] right)
    (starts : right.StartsIn test)
    (free : forall character, test character = true -> character ∉ bars) :
    Carries alteration [] (parser.skipRight right) := by
  apply carries.bind fun value => carriesRight.map fun _ => value
  intro value text result rest succeeds _
  rcases map_eq_success succeeds with ⟨_, found, _⟩
  rcases starts.lead found with ⟨character, leads, passes⟩
  exact clear_of_lead leads (free character passes)

theorem between {left : Parser β} {right : Parser γ} {test : Char -> Bool}
    (carries : Carries alteration bars parser) (carriesLeft : Carries alteration [] left)
    (carriesRight : Carries alteration [] right) (starts : right.StartsIn test)
    (free : forall character, test character = true -> character ∉ bars) :
    Carries alteration [] (parser.between left right) :=
  carriesLeft.skipLeft (carries.skipRight carriesRight starts free)

/-- An alternative is still reached if everything in front of it fails on the altered
text, given that the alternative succeeds there. -/
theorem orElse (carries : Carries alteration bars parser)
    (alsoCarries : Carries alteration bars alternative)
    (yields : forall text other value left, parser.Fails text ->
      (∃ rest, alternative text = .success value rest) -> alternative other = .success value left ->
      Clear bars left -> parser.Fails other) :
    Carries alteration bars (parser.orElse alternative) := by
  refine ⟨carries.forward.orElse alsoCarries.forward,
    fun {text other value rest} loosely succeeds covers => ?_⟩
  cases found : parser text with
  | success first behind =>
      rw [orElse_of_success alternative found] at succeeds
      cases succeeds
      rcases carries.carries loosely found covers with ⟨left, looselyRest, same⟩
      exact ⟨left, looselyRest, fun clear => orElse_of_success alternative (same clear)⟩
  | failure last =>
      rw [orElse_of_failure alternative found] at succeeds
      rcases alsoCarries.carries loosely succeeds covers with ⟨left, looselyRest, same⟩
      refine ⟨left, looselyRest, fun clear => ?_⟩
      have fails := yields text other value left ⟨last, found⟩ ⟨rest, succeeds⟩ (same clear) clear
      exact (fails.orElse_eq alternative).trans (same clear)
  | fault cause =>
      rw [orElse_of_fault alternative found] at succeeds
      cases succeeds

/-- Alternatives that start with different characters do not disturb each other. -/
theorem orElse_of_apart {test other : Char -> Bool} (carries : Carries alteration bars parser)
    (alsoCarries : Carries alteration bars alternative) (starts : parser.StartsIn test)
    (alsoStarts : alternative.StartsIn other)
    (apart : forall character, other character = true -> test character = false) :
    Carries alteration bars (parser.orElse alternative) := by
  apply carries.orElse alsoCarries
  intro _ altered value left _ _ succeeds _
  rcases alsoStarts.lead succeeds with ⟨character, leads, passes⟩
  exact starts.fails_of_lead leads (apart character passes)

section Lists

variable {delimiter : Char}

/-- Behind a delimiter less is left. -/
theorem delimited_shortens (forward : parser.Forward) {text rest : Text} {value : α}
    (succeeds : (Parser.keyword [delimiter]).skipLeft parser text = .success value rest) :
    rest.length < text.length := by
  rcases bind_eq_success succeeds with ⟨_, between, found, foundNext⟩
  rcases token_eq_success found with ⟨behind, isSymbol, rfl⟩
  have atMost := (forward.of_success foundNext).length_le
  have split := congrArg List.length (symbol_eq_success isSymbol)
  rw [List.length_append, List.length_singleton] at split
  have fewer := (List.dropWhile_suffix Text.isBlank (l := behind)).length_le
  have trimmed := (List.dropWhile_suffix Text.isBlank (l := text)).length_le
  omega

theorem delimiter_leads (notBlank : Text.isBlank delimiter = false) {text between : Text}
    {literal : Text} (succeeds : Parser.keyword [delimiter] text = .success literal between) :
    text.start? = some delimiter := by
  rcases (startsIn_keyword notBlank []).lead succeeds with ⟨character, leads, same⟩
  rw [leads, beq_iff_eq.mp same]

/-- The items behind the first one, each with a delimiter in front.  The induction is
on the bound of the repetition. -/
theorem delimited_repeats (carries : Carries alteration bars parser)
    (notBlank : Text.isBlank delimiter = false) (free : delimiter ∉ bars) {bound : Nat}
    {text other rest : Text} {values : List α} (loosely : alteration.Loosely text other)
    (succeeds : ((Parser.keyword [delimiter]).skipLeft parser).manyUpTo bound text =
      .success values rest)
    (enough : text.length < bound) (covers : alteration.covers rest) :
    ∃ left, alteration.Loosely rest left ∧ (Clear (delimiter :: bars) left -> Clear bars other ∧
      Repeats ((Parser.keyword [delimiter]).skipLeft parser) other values left) := by
  have plain : Text.IsPlain [delimiter] := by simpa [Text.IsPlain] using notBlank
  have item : Carries alteration bars ((Parser.keyword [delimiter]).skipLeft parser) :=
    (keyword plain).skipLeft carries
  induction bound generalizing text other values with
  | zero => omega
  | succ bound inductionHypothesis =>
      cases found : (Parser.keyword [delimiter]).skipLeft parser text with
      | fault cause =>
          rw [manyUpTo, found] at succeeds
          cases succeeds
      | failure last =>
          rw [manyUpTo, found] at succeeds
          cases succeeds
          refine ⟨other, loosely, fun clear => ?_⟩
          have missing : (Parser.keyword [delimiter]).Fails other := by
            apply startsIn_keyword notBlank []
            intro character leads
            refine beq_eq_false_iff_ne.mpr ?_
            rintro rfl
            exact clear _ leads List.mem_cons_self
          rcases missing.bind fun _ => parser with ⟨_, fails⟩
          exact ⟨clear.mono (List.subset_cons_self _ _), .stop fails⟩
      | success first between =>
          have reads := delimited_shortens carries.forward found
          rw [manyUpTo, found] at succeeds
          simp only [if_neg (Nat.ne_of_lt reads)] at succeeds
          rcases map_eq_success succeeds with ⟨others, foundOthers, rfl⟩
          have ahead := (item.forward.manyUpTo bound).of_success foundOthers
          rcases item.carries loosely found (alteration.covers_of_suffix ahead covers) with
            ⟨leftBetween, looselyBetween, same⟩
          rcases inductionHypothesis looselyBetween foundOthers (by omega) with
            ⟨left, looselyRest, goesOn⟩
          refine ⟨left, looselyRest, fun clear => ?_⟩
          rcases goesOn clear with ⟨clearBetween, repeats⟩
          have onward := same clearBetween
          rcases bind_eq_success onward with ⟨_, _, delimits, _⟩
          exact ⟨clear_of_lead (delimiter_leads notBlank delimits) free,
            .step onward (delimited_shortens carries.forward onward) repeats⟩

/-- A list ends where its delimiter does not follow. -/
theorem delimitedBy (carries : Carries alteration bars parser)
    (notBlank : Text.isBlank delimiter = false) (free : delimiter ∉ bars) :
    Carries alteration (delimiter :: bars) (parser.delimitedBy (Parser.keyword [delimiter])) := by
  refine ⟨carries.forward.delimitedBy (.keyword _),
    fun {text other values rest} loosely succeeds covers => ?_⟩
  rcases bind_eq_success succeeds with ⟨first, behind, found, foundOthers⟩
  rcases map_eq_success foundOthers with ⟨others, isMany, rfl⟩
  have ahead := ((Forward.keyword _).skipLeft carries.forward).many.of_success isMany
  rcases carries.carries loosely found (alteration.covers_of_suffix ahead covers) with
    ⟨leftBehind, looselyBehind, same⟩
  rcases carries.delimited_repeats notBlank free looselyBehind isMany (Nat.lt_succ_self _) covers
    with ⟨left, looselyRest, goesOn⟩
  refine ⟨left, looselyRest, fun clear => ?_⟩
  rcases goesOn clear with ⟨clearBehind, repeats⟩
  rw [Parser.delimitedBy, bind_of_success (same clearBehind)]
  exact map_of_success _ (many_of_repeats repeats)

end Lists

end Carries

end Parser
end SequenceCalculator
