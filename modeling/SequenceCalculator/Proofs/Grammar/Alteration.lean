import SequenceCalculator.Proofs.Grammar.Completeness
import SequenceCalculator.Proofs.Grammar.Descent
import SequenceCalculator.Proofs.Parsing.Alteration

namespace SequenceCalculator
namespace Grammar

/-!
# Statements on an altered text

An expression that was read is read again on an altered text, unless it goes on there:
with an operator or, behind a name, with a round bracket.  The alternatives of an
expression are told apart by their first character with two exceptions.  A sequence is
no range, because a comma or a closing brace stands behind its first element, and a
name is no application of a function as long as no round bracket stands behind it.
-/

open Number SequenceCalculator.Parser

variable {alteration : Alteration}

section Tokens

theorem startsIn_mark {character : Char} (notBlank : Text.isBlank character = false) :
    (mark character).StartsIn (· == character) :=
  (startsIn_satisfy (Text.noBlank_beq notBlank)).token

/-- A test that one given character does not pass. -/
theorem refused_of_beq {test : Char -> Bool} {character : Char} (refused : test character = false)
    (other : Char) (same : (other == character) = true) : test other = false := by
  rw [beq_iff_eq.mp same]
  exact refused

/-- One given character is not among others. -/
theorem free_of_not_mem {bars : List Char} {character : Char} (free : character ∉ bars)
    (other : Char) (same : (other == character) = true) : other ∉ bars := by
  rw [beq_iff_eq.mp same]
  exact free

theorem carries_mark {character : Char} (notBlank : Text.isBlank character = false) :
    Carries alteration [] (mark character) :=
  (Follows.satisfy (Text.noBlank_beq notBlank)).token ⟨[], rfl⟩

theorem start?_of_mark {character value : Char} {text rest : Text}
    (notBlank : Text.isBlank character = false)
    (succeeds : mark character text = .success value rest) : text.start? = some character := by
  rcases (startsIn_mark notBlank).lead succeeds with ⟨first, leads, same⟩
  rw [leads, beq_iff_eq.mp same]

theorem noBlank_letter : Text.NoBlank Text.isLetter := fun _ => Text.isLetter_of_isBlank

theorem noBlank_digit : Text.NoBlank Text.isDigit := fun _ => Text.isDigit_of_isBlank

theorem carries_name : Carries alteration [] name :=
  ((Follows.atLeastOne_satisfy noBlank_letter).token ⟨[], rfl⟩).map Node.name

theorem startsIn_name : name.StartsIn Text.isLetter :=
  ((startsIn_satisfy fun _ => Text.isLetter_of_isBlank).bind _).token.map _

theorem follows_sign : Follows alteration sign :=
  ((Follows.satisfy (Text.noBlank_beq (by decide))).map _).orElse (.pure [])
    fun relates fails =>
      (Refuses.satisfy (Text.noBlank_beq (by decide)) relates fails.of_map).map _

theorem follows_digits : Follows alteration digits := .atLeastOne_satisfy noBlank_digit

theorem refuses_digits : Refuses alteration digits :=
  Refuses.atLeastOne_satisfy noBlank_digit

/-- A conversion succeeds or ends the parse. -/
theorem ofExcept_not_fails {α : Type} (conversion : Except Fault α) (text : Text) :
    ¬ (ofExcept conversion).Fails text := by
  rintro ⟨last, gaveUp⟩
  cases conversion <;> cases gaveUp

theorem follows_decimal : Follows alteration decimal := by
  refine follows_sign.bind fun sign => follows_digits.bind fun whole => ?_
  cases convertDecimal sign whole [] with
  | error cause => exact .ofExcept (.error cause)
  | ok value =>
      have point : Text.isBlank '.' = false := by decide
      have fraction : Follows alteration ((char '.').skipLeft digits) :=
        (Follows.satisfy (Text.noBlank_beq point)).bind fun _ => follows_digits
      refine (fraction.bind fun _ => .ofExcept _).orElse (.pure value) fun relates fails => ?_
      -- The conversion never fails, so the fraction is missing.
      rcases fails.of_bind with missing | ⟨_, _, _, converted⟩
      · exact (Refuses.char_skipLeft point refuses_digits relates missing).bind _
      · exact absurd converted (ofExcept_not_fails _ _)

theorem carries_number : Carries alteration [] number := by
  have nothing : decimal.Fails [] := ⟨[], rfl⟩
  exact (follows_decimal.map _).token (nothing.map _)

/-- Whether a number may start with a character. -/
def startsNumber (character : Char) : Bool := Text.isDigit character || character == '-'

theorem startsIn_number : number.StartsIn startsNumber := by
  apply StartsIn.token
  intro text refused
  refine Fails.map ⟨text, ?_⟩ _
  cases text with
  | nil => rfl
  | cons first rest =>
      have passes : startsNumber first = false := by
        cases blank : Text.isBlank first with
        | true =>
            have noMinus := Text.beq_eq_false_of_test blank (by decide : Text.isBlank '-' = false)
            rw [startsNumber, Text.isDigit_of_isBlank blank, noMinus]
            decide
        | false => exact refused first (Text.start?_cons blank rest)
      rcases Bool.or_eq_false_iff.mp passes with ⟨noDigit, noMinus⟩
      exact decimal_refuses (List.takeWhile_cons_of_neg (ne_true_of_eq_false noMinus))
        (List.takeWhile_cons_of_neg (ne_true_of_eq_false noDigit))

/-- The blanks inside a literal stay as they are. -/
theorem follows_literal :
    Follows alteration (stringCharacter.many.between (char '"') (char '"')) := by
  have characters : stringCharacter.Forward :=
    ((Forward.satisfy _).orElse (.satisfy _)).orElse (.satisfy _)
  refine ⟨characters.many.between (.satisfy _) (.satisfy _),
    fun {text other value rest} relates succeeds covers => ?_⟩
  rcases bind_eq_success succeeds with ⟨_, content, opens, goesOn⟩
  rcases bind_eq_success goesOn with ⟨written, behind, isMany, closes⟩
  rcases map_eq_success closes with ⟨_, isQuote, rfl⟩
  rw [stringCharacter_eq] at isMany
  rcases many_satisfy_eq_success isMany with ⟨rfl, allowed⟩
  obtain rfl := char_eq_success isQuote
  obtain rfl := char_eq_success opens
  have quoted : alteration.covers ('"' :: rest) :=
    alteration.covers_of_suffix (List.suffix_cons _ _) covers
  rcases alteration.keeps relates (.inl (by decide))
    (alteration.covers_of_suffix (List.suffix_append _ _) quoted) with ⟨inside, rfl, relatesInside⟩
  rcases alteration.keeps_append relatesInside (.inr List.mem_cons_self) quoted with
    ⟨ending, rfl, relatesEnding⟩
  rcases alteration.keeps relatesEnding (.inl (by decide)) covers with ⟨left, rfl, relatesRest⟩
  have quote (behind : Text) : char '"' ('"' :: behind) = .success '"' behind :=
    satisfy_cons_of_true (by decide) behind
  have stops : ('"' :: left).takeWhile (fun character =>
      Text.isLetter character || Text.isDigit character || Text.isBlank character) = [] :=
    List.takeWhile_cons_of_neg (by decide)
  have between := many_satisfy_append allowed stops
  rw [← stringCharacter_eq] at between
  refine ⟨left, ?_, relatesRest⟩
  rw [Parser.between, Parser.skipLeft, bind_of_success (quote _), Parser.skipRight,
    bind_of_success between, mapTo, map_of_success _ (quote _)]

theorem carries_string : Carries alteration [] string :=
  (follows_literal.token ⟨[], rfl⟩).map Node.string

end Tokens

/-!
## Expressions
-/

/-- What may not follow an expression: it would go on. -/
def goingOn : List Char := ['+', '-', '*', '/', '^', '(']

/-- A parser that reads nothing that starts with a closing brace: either it gives up
there, or it has no room for anything. -/
def Shuts {α : Type} (parser : Parser α) : Prop :=
  (forall text : Text, text.start? = some '\x7d' -> parser.Fails text) ∨
    forall text, ∃ cause, parser text = .fault cause

theorem Shuts.bind {α β : Type} {parser : Parser α} (shuts : Shuts parser)
    (next : α -> Parser β) : Shuts (parser.bind next) := by
  rcases shuts with refuses | aborts
  · exact .inl fun text closed => (refuses text closed).bind next
  · refine .inr fun text => ?_
    rcases aborts text with ⟨cause, breaks⟩
    exact ⟨cause, bind_of_fault next breaks⟩

theorem Shuts.map {α β : Type} {parser : Parser α} (shuts : Shuts parser)
    (change : α -> β) : Shuts (parser.map change) := by
  rcases shuts with refuses | aborts
  · exact .inl fun text closed => (refuses text closed).map change
  · refine .inr fun text => ?_
    rcases aborts text with ⟨cause, breaks⟩
    exact ⟨cause, map_of_fault change breaks⟩

/-- Braces with nothing in between hold no content, unless every such content is a
fault. -/
theorem Shuts.braced {α : Type} {content : Parser α} (shuts : Shuts content)
    {text between rest : Text} {opening closing : Char}
    (opens : mark '\x7b' text = .success opening between)
    (closes : mark '\x7d' between = .success closing rest) :
    (braced content).Fails text ∨ forall other, (∃ opening between,
      mark '\x7b' other = .success opening between) ->
        ∃ cause, braced content other = .fault cause := by
  rcases shuts with refuses | aborts
  · have refused := refuses between (start?_of_mark (by decide) closes)
    exact .inl (fails_bind_of_success opens (refused.bind _))
  · refine .inr ?_
    rintro other ⟨_, inside, alsoOpens⟩
    rcases aborts inside with ⟨cause, breaks⟩
    exact ⟨cause, (bind_of_success alsoOpens).trans (bind_of_fault _ breaks)⟩

section Rules

variable {inner : Parser Node}

theorem carries_parenthesized {α : Type} {parser : Parser α} {bars : List Char}
    (carries : Carries alteration bars parser) (free : ')' ∉ bars) :
    Carries alteration [] (parenthesized parser) :=
  carries.between (carries_mark (by decide)) (carries_mark (by decide))
    (startsIn_mark (by decide)) (free_of_not_mem free)

theorem carries_braced {α : Type} {parser : Parser α} {bars : List Char}
    (carries : Carries alteration bars parser) (free : '\x7d' ∉ bars) :
    Carries alteration [] (braced parser) :=
  carries.between (carries_mark (by decide)) (carries_mark (by decide))
    (startsIn_mark (by decide)) (free_of_not_mem free)

/-- An expression and a keyword behind it. -/
theorem carries_before {first : Char} {others : Text} (carries : Carries alteration goingOn inner)
    (plain : Text.IsPlain (first :: others)) (free : first ∉ goingOn) :
    Carries alteration [] (inner.skipRight (keyword (first :: others))) :=
  carries.skipRight (.keyword plain) (startsIn_keyword (plain first List.mem_cons_self) others)
    (free_of_not_mem free)

theorem carries_beforeComma (carries : Carries alteration goingOn inner) :
    Carries alteration [] (inner.skipRight (keyword ",".toList)) :=
  carries_before carries (by decide) (by decide)

/-- A name and a keyword behind it. -/
theorem carries_nameBefore {first : Char} {others : Text} (plain : Text.IsPlain (first :: others)) :
    Carries alteration [] (name.skipRight (keyword (first :: others))) :=
  carries_name.skipRight (.keyword plain) (startsIn_keyword (plain first List.mem_cons_self) others)
    fun _ _ => List.not_mem_nil

theorem carries_range (carries : Carries alteration goingOn inner) :
    Carries alteration [] (range inner) := by
  have bounds : Carries alteration goingOn
      ((inner.skipRight (keyword "..".toList)).bind fun start =>
        inner.bind fun stop => Parser.pure (Node.range start stop)) := by
    apply (carries_before carries (by decide) (by decide)).bind
    · intro start
      apply carries.bind (fun stop => .pure _)
      intro stop text result rest succeeds clear
      cases succeeds
      exact clear
    · exact fun _ _ _ _ _ _ => clear_nil _
  exact carries_braced bounds (by decide)

theorem carries_mapper (carries : Carries alteration goingOn inner) :
    Carries alteration goingOn (mapper inner) :=
  ((carries_nameBefore (by decide)).bind (fun _ => carries.map _)
    fun _ _ _ _ _ _ => clear_nil _).token

theorem carries_reducer (carries : Carries alteration goingOn inner) :
    Carries alteration goingOn (reducer inner) := by
  refine (carries_name.bind (fun first => ?_) fun _ _ _ _ _ _ => clear_nil _).token
  exact (carries_nameBefore (by decide)).bind (fun _ => carries.map _)
    fun _ _ _ _ _ _ => clear_nil _

theorem carries_map (carries : Carries alteration goingOn inner) :
    Carries alteration [] (Grammar.map inner) := by
  apply Carries.skipLeft (.keyword (by decide))
  have arguments := (carries_beforeComma carries).bind
    (fun source => (carries_mapper carries).map (Node.map source))
    fun _ _ _ _ _ _ => clear_nil _
  exact carries_parenthesized arguments (by decide)

theorem carries_reduce (carries : Carries alteration goingOn inner) :
    Carries alteration [] (Grammar.reduce inner) := by
  apply Carries.skipLeft (.keyword (by decide))
  have folding (source : Node) := (carries_beforeComma carries).bind
    (fun primer => (carries_reducer carries).map (Node.reduce source primer))
    fun _ _ _ _ _ _ => clear_nil _
  have arguments := (carries_beforeComma carries).bind folding
    fun _ _ _ _ _ _ => clear_nil _
  exact carries_parenthesized arguments (by decide)

/-- Empty braces are no list of elements. -/
theorem carries_sequence (carries : Carries alteration goingOn inner) (shuts : Shuts inner) :
    Carries alteration [] (sequence inner) := by
  have elements := carries_braced ((carries.delimitedBy (by decide : Text.isBlank ',' = false)
    (by decide)).map Node.sequence) (by decide)
  have empty : Carries alteration []
      (((mark '\x7b').skipLeft (mark '\x7d')).mapTo (Node.sequence [])) :=
    ((carries_mark (by decide)).skipLeft (carries_mark (by decide))).map _
  apply elements.orElse empty
  rintro text other value left ⟨last, fails⟩ ⟨rest, succeeds⟩ succeedsOther _
  rcases map_eq_success succeeds with ⟨_, found, _⟩
  rcases bind_eq_success found with ⟨_, _, opens, _⟩
  rcases map_eq_success succeedsOther with ⟨_, foundOther, _⟩
  rcases bind_eq_success foundOther with ⟨_, _, opensOther, closesOther⟩
  have content : Shuts ((inner.delimitedBy (keyword ",".toList)).map Node.sequence) :=
    (shuts.bind _).map _
  rcases content.braced opensOther closesOther with refused | aborts
  · exact refused
  · rcases aborts text ⟨_, _, opens⟩ with ⟨cause, breaks⟩
    cases fails.symm.trans breaks

/-- A sequence is no range: behind its first element stands a comma or a closing
brace. -/
theorem range_fails_of_sequence (shuts : Shuts inner) {text rest : Text} {value : Node}
    (succeeds : sequence inner text = .success value rest) : (range inner).Fails text := by
  rcases orElse_eq_success succeeds with listed | empty
  · rcases bind_eq_success listed with ⟨_, between, opens, goesOn⟩
    rcases bind_eq_success goesOn with ⟨_, behind, elements, closes⟩
    rcases map_eq_success elements with ⟨nodes, delimited, _⟩
    rcases bind_eq_success delimited with ⟨first, others, found, repeated⟩
    rcases map_eq_success repeated with ⟨_, isMany, _⟩
    rcases map_eq_success closes with ⟨_, isClosed, _⟩
    have next : others.start? = some ',' ∨ others.start? = some '\x7d' := by
      cases step : (keyword ",".toList).skipLeft inner others with
      | success node after =>
          rcases bind_eq_success step with ⟨_, _, comma, _⟩
          exact .inl (Carries.delimiter_leads (by decide) comma)
      | failure last =>
          rw [many, manyUpTo, step] at isMany
          cases isMany
          exact .inr (start?_of_mark (by decide) isClosed)
      | fault cause =>
          rw [many, manyUpTo, step] at isMany
          cases isMany
    have noPoints : (keyword "..".toList).Fails others := by
      have starts : (keyword "..".toList).StartsIn (· == '.') := startsIn_keyword (by decide) _
      rcases next with comma | brace
      · exact starts.fails_of_lead comma (by decide)
      · exact starts.fails_of_lead brace (by decide)
    exact fails_bind_of_success opens
      (((fails_bind_of_success found (noPoints.map _)).bind _).bind _)
  · rcases map_eq_success empty with ⟨_, found, _⟩
    rcases bind_eq_success found with ⟨_, between, opens, closes⟩
    have bounds : Shuts ((inner.skipRight (keyword "..".toList)).bind fun start =>
        inner.bind fun stop => Parser.pure (Node.range start stop)) := (shuts.bind _).bind _
    rcases bounds.braced opens closes with refused | _
    · exact refused
    · rcases shuts with refuses | aborts
      · have refused := refuses between (start?_of_mark (by decide) closes)
        exact fails_bind_of_success opens (((refused.bind _).bind _).bind _)
      · rcases aborts between with ⟨cause, breaks⟩
        have breaksOff : sequence inner text = .fault cause := orElse_of_fault _
          ((bind_of_success opens).trans
            (bind_of_fault _ (map_of_fault _ (bind_of_fault _ breaks))))
        rw [breaksOff] at succeeds
        cases succeeds

/-- A name is the longest run of letters. -/
theorem name_eq_success {text rest : Text} {value : Node}
    (succeeds : name text = .success value rest) :
    ∃ written behind, text.dropWhile Text.isBlank = written ++ behind ∧ written ≠ [] ∧
      (forall character, character ∈ written -> Text.isLetter character = true) ∧
      behind.takeWhile Text.isLetter = [] ∧ rest = behind.dropWhile Text.isBlank := by
  rcases map_eq_success succeeds with ⟨_, isWord, _⟩
  rcases token_eq_success isWord with ⟨behind, found, rfl⟩
  rw [letter, atLeastOne_satisfy] at found
  split at found
  · cases found
  · next nonempty =>
    cases found
    exact ⟨_, _, List.takeWhile_append_dropWhile.symm, nonempty,
      fun _ => List.mem_takeWhile_imp, Text.takeWhile_dropWhile _ _, rfl⟩

/-- Where a word starts with the letters of a function, no round bracket comes first
behind them unless one comes first behind the word. -/
theorem start?_ne_round {function written behind after : Text}
    (isFunction : forall character, character ∈ function -> Text.isLetter character = true)
    (isWord : forall character, character ∈ written -> Text.isLetter character = true)
    (stops : behind.takeWhile Text.isLetter = []) (noRound : behind.start? ≠ some '(')
    (split : written ++ behind = function ++ after) : after.start? ≠ some '(' := by
  rcases List.append_eq_append_iff.mp split with
    ⟨extra, function_eq, behind_eq⟩ | ⟨extra, written_eq, after_eq⟩
  · cases extra with
    | nil => rwa [behind_eq, List.nil_append] at noRound
    | cons first others =>
        have isLetter := isFunction first (by simp [function_eq])
        rw [behind_eq, List.cons_append, List.takeWhile_cons_of_pos isLetter] at stops
        cases stops
  · cases extra with
    | nil => rwa [after_eq, List.nil_append]
    | cons first others =>
        have isLetter := isWord first (by simp [written_eq])
        rw [after_eq, List.cons_append, Text.start?_cons (Text.isBlank_of_isLetter isLetter)]
        rintro ⟨rfl⟩
        exact absurd isLetter (by decide)

/-- A name is no application of a function, unless a round bracket stands behind it. -/
theorem application_fails_of_name {function : Text} (isFunction : function.all Text.isLetter = true)
    {α : Type} (parser : Parser α) {text rest : Text} {value : Node}
    (succeeds : name text = .success value rest) (clear : Clear ['('] rest) :
    ((keyword function).skipLeft (parenthesized parser)).Fails text := by
  rcases name_eq_success succeeds with
    ⟨written, behind, split, nonempty, isWord, stops, rfl⟩
  cases applied : keyword function text with
  | failure last => exact Fails.bind ⟨last, applied⟩ _
  | fault cause => exact absurd applied (faultless_keyword function text cause)
  | success literal after =>
      rcases token_eq_success applied with ⟨after, found, rfl⟩
      have whole := symbol_eq_success found
      rw [split] at whole
      have noRound : Text.start? behind ≠ some '(' := fun leads =>
        clear '(' (by rw [Text.start?_dropBlanks, leads]) List.mem_cons_self
      have noBracket := start?_ne_round (List.all_eq_true.mp isFunction) isWord stops noRound whole
      refine fails_bind_of_success applied (Fails.bind ?_ _)
      apply startsIn_mark (by decide)
      intro character leads
      refine beq_eq_false_iff_ne.mpr ?_
      rintro rfl
      rw [Text.start?_dropBlanks] at leads
      exact noBracket leads

theorem startsIn_parenthesized {α : Type} (parser : Parser α) :
    (parenthesized parser).StartsIn (· == '(') :=
  (startsIn_mark (by decide)).bind _

theorem startsIn_braced {α : Type} (parser : Parser α) :
    (braced parser).StartsIn (· == '\x7b') :=
  (startsIn_mark (by decide)).bind _

theorem startsIn_range (inner : Parser Node) : (range inner).StartsIn (· == '\x7b') :=
  startsIn_braced _

theorem startsIn_sequence (inner : Parser Node) : (sequence inner).StartsIn (· == '\x7b') := by
  have either := (startsIn_braced
    ((inner.delimitedBy (keyword ",".toList)).map Node.sequence)).orElse
    (((startsIn_mark (by decide : Text.isBlank '\x7b' = false)).bind
      fun _ => mark '\x7d').map fun _ => Node.sequence [])
  exact either.mono fun character => by rw [Bool.or_self]; exact id

/-- Whether a bracketed expression may start with a character. -/
def startsBracketed (character : Char) : Bool := character == '(' || character == '\x7b'

theorem startsIn_bracketed (inner : Parser Node) :
    (bracketed inner).StartsIn startsBracketed := by
  have any := ((startsIn_parenthesized inner).orElse (startsIn_range inner)).orElse
    (startsIn_sequence inner)
  exact any.mono fun character => by rw [Bool.or_assoc, Bool.or_self]; exact id

theorem carries_bracketed (carries : Carries alteration goingOn inner) (shuts : Shuts inner) :
    Carries alteration [] (bracketed inner) := by
  have rounds : Carries alteration [] (parenthesized inner) :=
    carries_parenthesized carries (by decide)
  have brace : forall character, (character == '\x7b') = true -> (character == '(') = false :=
    @refused_of_beq (· == '(') _ (by decide)
  have ranges := rounds.orElse_of_apart (carries_range carries)
    (startsIn_parenthesized inner) (startsIn_range inner) brace
  apply ranges.orElse (carries_sequence carries shuts)
  intro _ other value left _ _ succeeds _
  rcases (startsIn_sequence inner).lead succeeds with ⟨character, leads, isBrace⟩
  have noRound := (startsIn_parenthesized inner).fails_of_lead leads (brace character isBrace)
  exact noRound.orElse (range_fails_of_sequence shuts succeeds)

theorem startsBracketed_of_test {test : Char -> Bool} {character : Char}
    (passes : test character = true) (noRound : test '(' = false)
    (noBrace : test '\x7b' = false) : startsBracketed character = false := by
  rw [startsBracketed, Text.beq_eq_false_of_test passes noRound,
    Text.beq_eq_false_of_test passes noBrace]
  rfl

theorem startsIn_reduce (inner : Parser Node) : (Grammar.reduce inner).StartsIn (· == 'r') :=
  (startsIn_keyword (by decide : Text.isBlank 'r' = false) "educe".toList).bind _

theorem startsIn_map (inner : Parser Node) : (Grammar.map inner).StartsIn (· == 'm') :=
  (startsIn_keyword (by decide : Text.isBlank 'm' = false) "ap".toList).bind _

/-- Whether something in brackets or a number may start with a character. -/
def startsPlain (character : Char) : Bool := startsBracketed character || startsNumber character

theorem startsPlain_of_letter {character : Char} (letter : Text.isLetter character = true) :
    startsPlain character = false := by
  have noBracket := startsBracketed_of_test letter (by decide) (by decide)
  have noMinus := Text.beq_eq_false_of_test letter (by decide : Text.isLetter '-' = false)
  rw [startsPlain, noBracket, startsNumber, Text.isDigit_of_isLetter letter, noMinus]
  rfl

theorem startsIn_plain (inner : Parser Node) :
    ((bracketed inner).orElse number).StartsIn startsPlain :=
  (startsIn_bracketed inner).orElse startsIn_number

/-- An atom goes on only if it is a name and a round bracket stands behind it. -/
theorem carries_atom (carries : Carries alteration goingOn inner) (shuts : Shuts inner) :
    Carries alteration ['('] (atom inner) := by
  rw [atom_eq]
  apply Carries.token
  have plain : Carries alteration [] ((bracketed inner).orElse number) :=
    (carries_bracketed carries shuts).orElse_of_apart carries_number (startsIn_bracketed inner)
      startsIn_number fun _ passes => startsBracketed_of_test passes (by decide) (by decide)
  have reductions := plain.orElse_of_apart (carries_reduce carries)
    (startsIn_plain inner) (startsIn_reduce inner) (refused_of_beq (by decide))
  have applications := reductions.orElse_of_apart (carries_map carries)
    ((startsIn_plain inner).orElse (startsIn_reduce inner)) (startsIn_map inner)
    (refused_of_beq (by decide))
  have names : Carries alteration ['('] name := carries_name.mono (List.nil_subset _)
  apply (applications.mono (List.nil_subset _)).orElse names
  intro _ other value left _ _ succeeds clear
  rcases startsIn_name.lead succeeds with ⟨character, leads, letter⟩
  have noPlain := (startsIn_plain inner).fails_of_lead leads (startsPlain_of_letter letter)
  have noReduction : (Grammar.reduce inner).Fails other :=
    application_fails_of_name (by decide) _ succeeds clear
  have noMap : (Grammar.map inner).Fails other :=
    application_fails_of_name (by decide) _ succeeds clear
  exact (noPlain.orElse noReduction).orElse noMap

theorem carries_chain (operator : Operator) {item : Parser Node} {bars : List Char}
    (carries : Carries alteration bars item) (free : operator.symbol ∉ bars) :
    Carries alteration (operator.symbol :: bars) (chain operator item) := by
  have notBlank : Text.isBlank operator.symbol = false := by cases operator <;> decide
  exact (carries.delimitedBy notBlank free).map _

theorem carries_sums (carries : Carries alteration goingOn inner) (shuts : Shuts inner) :
    Carries alteration goingOn (sums inner) := by
  have powers := carries_chain .power (carries_atom carries shuts) (by decide)
  have quotients := carries_chain .over powers (by decide)
  have products := carries_chain .times quotients (by decide)
  have differences := carries_chain .minus products (by decide)
  exact carries_chain .plus differences (by decide)

/-- No expression starts with a closing brace. -/
theorem sums_fails_of_closed (inner : Parser Node) {text : Text}
    (closed : text.start? = some '\x7d') : (sums inner).Fails text := by
  have noAtom : (atom inner).Fails text := by
    have starts := (((startsIn_plain inner).orElse (startsIn_reduce inner)).orElse
      (startsIn_map inner)).orElse startsIn_name
    rw [atom_eq]
    exact starts.token.fails_of_lead closed (by decide)
  have chained (operator : Operator) {item : Parser Node} (noItem : item.Fails text) :
      (chain operator item).Fails text := (noItem.bind _).map _
  exact chained .plus (chained .minus (chained .times (chained .over (chained .power noAtom))))

end Rules

theorem shuts_expression (depth : Nat) : Shuts (expression depth) := by
  cases depth with
  | zero => exact .inr fun _ => ⟨_, rfl⟩
  | succ depth => exact .inl fun _ => sums_fails_of_closed (expression depth)

/-- The induction is on the bound; nothing is read without room for an expression. -/
theorem carries_expression (depth : Nat) : Carries alteration goingOn (expression depth) := by
  induction depth with
  | zero => exact ⟨.abort _, fun _ succeeds => by cases succeeds⟩
  | succ depth inductionHypothesis =>
      exact carries_sums inductionHypothesis (shuts_expression depth)

/-!
## Statements
-/

theorem startsIn_declaration (depth : Nat) : (declaration depth).StartsIn (· == 'v') :=
  (startsIn_keyword (by decide : Text.isBlank 'v' = false) "ar".toList).bind _

theorem startsIn_output (depth : Nat) : (output depth).StartsIn (· == 'o') :=
  (startsIn_keyword (by decide : Text.isBlank 'o' = false) "ut".toList).bind _

theorem startsIn_printing : printing.StartsIn (· == 'p') :=
  (startsIn_keyword (by decide : Text.isBlank 'p' = false) "rint".toList).bind _

/-- Whether a statement may start with a character. -/
def startsStatement (character : Char) : Bool :=
  (character == 'v' || character == 'o') || character == 'p'

theorem startsIn_statement (depth : Nat) : (statement depth).StartsIn startsStatement :=
  (((startsIn_declaration depth).orElse (startsIn_output depth)).orElse
    startsIn_printing).bind _

theorem isLetter_of_startsStatement {character : Char}
    (starts : startsStatement character = true) : Text.isLetter character = true := by
  simp only [startsStatement, Bool.or_eq_true, beq_iff_eq] at starts
  rcases starts with (rfl | rfl) | rfl <;> decide

/-- No expression goes on with a statement. -/
theorem clear_of_statement {depth : Nat} {text rest : Text} {node : Node}
    (succeeds : statement depth text = .success node rest) : Clear goingOn text := by
  rcases (startsIn_statement depth).lead succeeds with ⟨character, leads, starts⟩
  have noLetters : goingOn.any Text.isLetter = false := by decide
  refine clear_of_lead leads fun member => ?_
  exact List.any_eq_false.mp noLetters character member (isLetter_of_startsStatement starts)

theorem carries_statement (depth : Nat) : Carries alteration goingOn (statement depth) := by
  have expressions : Carries alteration goingOn (expression depth) := carries_expression depth
  have declarations : Carries alteration goingOn (declaration depth) :=
    .skipLeft (.keyword (by decide)) ((carries_nameBefore (by decide)).bind
      (fun _ => expressions.map _) fun _ _ _ _ _ _ => clear_nil _)
  have outputs : Carries alteration goingOn (output depth) :=
    .skipLeft (.keyword (by decide)) (expressions.map _)
  have printings : Carries alteration goingOn printing :=
    .skipLeft (.keyword (by decide)) ((carries_string.map _).mono (List.nil_subset _))
  have either := declarations.orElse_of_apart outputs (startsIn_declaration depth)
    (startsIn_output depth) (refused_of_beq (by decide))
  have any := either.orElse_of_apart printings
    ((startsIn_declaration depth).orElse (startsIn_output depth)) startsIn_printing
    (refused_of_beq (by decide))
  apply any.bind fun node => .ofExcept node.normalize
  intro node text result rest succeeds clear
  rcases ofExcept_eq_success succeeds with ⟨_, rfl⟩
  exact clear

theorem tidy_sums (inner : Parser Node) : (sums inner).Tidy := by
  have chained (operator : Operator) {item : Parser Node} (tidy : item.Tidy) :
      (chain operator item).Tidy := (tidy.delimitedBy _).map _
  exact chained .plus (chained .minus (chained .times (chained .over (chained .power
    (Tidy.token _)))))

theorem tidy_expression (depth : Nat) : (expression depth).Tidy := by
  cases depth with
  | zero => intro text value rest succeeds; cases succeeds
  | succ depth => exact tidy_sums (expression depth)

/-- A statement takes all blanks behind it. -/
theorem tidy_statement (depth : Nat) : (statement depth).Tidy := by
  have declarations : (declaration depth).Tidy :=
    .bind _ fun _ => .bind _ fun _ => (tidy_expression depth).map _
  have outputs : (output depth).Tidy := .bind _ fun _ => (tidy_expression depth).map _
  have printings : printing.Tidy := .bind _ fun _ => ((Tidy.token _).map _).map _
  intro text node rest succeeds
  rcases bind_eq_success succeeds with ⟨raw, between, found, normalizes⟩
  rcases ofExcept_eq_success normalizes with ⟨_, rfl⟩
  exact ((declarations.orElse outputs).orElse printings) text raw between found

end Grammar
end SequenceCalculator
