import SequenceCalculator.Proofs.Grammar.Soundness

namespace SequenceCalculator
namespace Grammar

/-!
# Every phrase that is laid out is read

A parser accepts a rule in front of what may follow when it reads every phrase of
the rule, wherever it stands in a text that is laid out from tokens, and leaves
exactly the tokens behind the phrase.  As alternatives are tried in order and
repetitions are greedy, a law for an alternative or for a repetition has to know
where parsers fail: an alternative is only reached when those before it fail, and
a repetition only ends in front of a failure.  What may follow a phrase is a part
of each statement for this reason.

Faults do not occur here: only numerals of decimal digits are read, and there is
room for one expression more than a phrase has inside one another.
-/

open Number SequenceCalculator.Parser

section Laws

variable {α β γ : Type}

/-- What may stand behind a phrase. -/
abbrev Follow := List Token -> Prop

/-- Anything may follow. -/
def Follow.anything : Follow := fun _ => True

/-- Every phrase of a rule is read, up to the tokens behind it. -/
def Accepts (parser : Parser α) (rule : Rule α) (follow : Follow) : Prop :=
  forall tokens value next text, rule tokens value -> follow next -> Laid (tokens ++ next) text ->
    ∃ consumed rest, text = consumed ++ rest ∧ Laid next rest ∧
      parser text = .success value rest

/-- A token is read, whatever its value is. -/
def Takes (parser : Parser α) (token : Token) : Prop :=
  forall next text, Laid (token :: next) text ->
    ∃ value rest, rest.length < text.length ∧ (∃ consumed, text = consumed ++ rest) ∧
      Laid next rest ∧ parser text = .success value rest

theorem Accepts.mono {parser : Parser α} {rule narrower : Rule α} {follow fewer : Follow}
    (accepts : Accepts parser rule follow)
    (narrows : forall tokens value, narrower tokens value -> rule tokens value)
    (restricts : forall next, fewer next -> follow next) : Accepts parser narrower fewer := by
  intro tokens value next text phrase allowed laid
  exact accepts tokens value next text (narrows tokens value phrase) (restricts next allowed) laid

theorem Accepts.map {parser : Parser α} {rule : Rule α} {follow : Follow}
    (accepts : Accepts parser rule follow) (change : α -> β) :
    Accepts (parser.map change) (fun tokens result =>
      ∃ value, rule tokens value ∧ result = change value) follow := by
  rintro tokens result next text ⟨value, phrase, rfl⟩ allowed laid
  rcases accepts tokens value next text phrase allowed laid with
    ⟨consumed, rest, split, laidRest, succeeds⟩
  exact ⟨consumed, rest, split, laidRest, map_of_success change succeeds⟩

theorem Accepts.bind {parser : Parser α} {next : α -> Parser β} {first : Rule α}
    {second : α -> Rule β} {between follow : Follow} (accepts : Accepts parser first between)
    (acceptsNext : forall value, Accepts (next value) (second value) follow)
    (follows : forall value tokens result later, second value tokens result -> follow later ->
      between (tokens ++ later)) :
    Accepts (parser.bind next) (fun tokens result => ∃ front back value, tokens = front ++ back ∧
      first front value ∧ second value back result) follow := by
  rintro tokens result later text ⟨front, back, value, rfl, phrase, phraseNext⟩ allowed laid
  rw [List.append_assoc] at laid
  rcases accepts front value (back ++ later) text phrase
    (follows value back result later phraseNext allowed) laid with
    ⟨consumed, rest, split, laidRest, succeeds⟩
  rcases acceptsNext value back result later rest phraseNext allowed laidRest with
    ⟨consumedNext, last, splitNext, laidLast, succeedsNext⟩
  refine ⟨consumed ++ consumedNext, last, ?_, laidLast, ?_⟩
  · rw [split, splitNext, List.append_assoc]
  · rw [bind_of_success succeeds, succeedsNext]

theorem Accepts.skipLeft {parser : Parser α} {next : Parser β} {token : Token} {rule : Rule β}
    {follow : Follow} (takes : Takes parser token) (accepts : Accepts next rule follow) :
    Accepts (parser.skipLeft next) (fun tokens value =>
      ∃ inside, tokens = token :: inside ∧ rule inside value) follow := by
  rintro tokens result later text ⟨inside, rfl, phrase⟩ allowed laid
  rcases takes (inside ++ later) text laid with
    ⟨value, rest, _, ⟨consumed, split⟩, laidRest, succeeds⟩
  rcases accepts inside result later rest phrase allowed laidRest with
    ⟨consumedNext, last, splitNext, laidLast, succeedsNext⟩
  refine ⟨consumed ++ consumedNext, last, ?_, laidLast, ?_⟩
  · rw [split, splitNext, List.append_assoc]
  · rw [Parser.skipLeft, bind_of_success succeeds, succeedsNext]

theorem Accepts.skipRight {parser : Parser α} {next : Parser β} {token : Token} {rule : Rule α}
    {follow : Follow} (accepts : Accepts parser rule follow) (takes : Takes next token)
    (follows : forall later, follow (token :: later)) :
    Accepts (parser.skipRight next) (fun tokens value =>
      ∃ front, tokens = front ++ [token] ∧ rule front value) .anything := by
  rintro tokens result later text ⟨front, rfl, phrase⟩ allowed laid
  rw [List.append_assoc] at laid
  rcases accepts front result ([token] ++ later) text phrase (follows later) laid with
    ⟨consumed, rest, split, laidRest, succeeds⟩
  rcases takes later rest laidRest with
    ⟨value, last, _, ⟨consumedNext, splitNext⟩, laidLast, succeedsNext⟩
  refine ⟨consumed ++ consumedNext, last, ?_, laidLast, ?_⟩
  · rw [split, splitNext, List.append_assoc]
  · rw [Parser.skipRight, bind_of_success succeeds, mapTo, map_of_success _ succeedsNext]

theorem Accepts.between {parser : Parser α} {left : Parser β} {right : Parser γ}
    {opening closing : Token} {rule : Rule α} {follow : Follow}
    (accepts : Accepts parser rule follow) (takesLeft : Takes left opening)
    (takesRight : Takes right closing) (follows : forall later, follow (closing :: later)) :
    Accepts (parser.between left right) (fun tokens value =>
      ∃ inside, tokens = opening :: inside ++ [closing] ∧ rule inside value) .anything := by
  refine (Accepts.skipLeft takesLeft (accepts.skipRight takesRight follows)).mono ?_
    fun _ allowed => allowed
  rintro tokens value ⟨inside, rfl, phrase⟩
  exact ⟨inside ++ [closing], rfl, inside, rfl, phrase⟩

theorem Accepts.pure (value : α) (follow : Follow) :
    Accepts (Parser.pure value) (fun tokens found => tokens = [] ∧ found = value) follow := by
  rintro tokens found next text ⟨rfl, rfl⟩ _ laid
  exact ⟨[], text, rfl, laid, rfl⟩

/-- A phrase is laid out without blanks in front, and those behind it are taken
with its last token. -/
theorem Accepts.token {parser : Parser α} {rule : Rule α} {follow : Follow}
    (accepts : Accepts parser rule follow) : Accepts (Parser.token parser) rule follow := by
  intro tokens value next text phrase allowed laid
  rcases accepts tokens value next text phrase allowed laid with
    ⟨consumed, rest, split, laidRest, succeeds⟩
  have inside : parser (text.dropWhile Text.isBlank) = .success value rest := by
    rw [laid.dropBlanks, succeeds]
  refine ⟨consumed, rest, split, laidRest, ?_⟩
  rw [token_of_success inside, laidRest.dropBlanks]

theorem Accepts.orLeft {parser : Parser α} {rule : Rule α} {follow : Follow}
    (accepts : Accepts parser rule follow) (alternative : Parser α) :
    Accepts (parser.orElse alternative) rule follow := by
  intro tokens value next text phrase allowed laid
  rcases accepts tokens value next text phrase allowed laid with
    ⟨consumed, rest, split, laidRest, succeeds⟩
  exact ⟨consumed, rest, split, laidRest, orElse_of_success alternative succeeds⟩

/-- An alternative is reached where everything in front of it fails. -/
theorem Accepts.orRight {alternative : Parser α} {rule : Rule α} {follow : Follow}
    (accepts : Accepts alternative rule follow) (parser : Parser α)
    (fails : forall tokens value next text, rule tokens value -> follow next ->
      Laid (tokens ++ next) text -> parser.Fails text) :
    Accepts (parser.orElse alternative) rule follow := by
  intro tokens value next text phrase allowed laid
  rcases accepts tokens value next text phrase allowed laid with
    ⟨consumed, rest, split, laidRest, succeeds⟩
  refine ⟨consumed, rest, split, laidRest, ?_⟩
  rw [(fails tokens value next text phrase allowed laid).orElse_eq, succeeds]

/-- A list is read to its end if the delimiter fails there.  The induction is on
the list; the repetition behind its first item is described step by step. -/
theorem Accepts.delimitedBy {parser : Parser α} {delimiter : Parser β} {rule : Rule α}
    {separator : Mark} {between follow : Follow} (accepts : Accepts parser rule between)
    (takes : Takes delimiter (.mark separator))
    (goesOn : forall later, between (.mark separator :: later))
    (ends : forall later, follow later -> between later)
    (refuses : forall later text, follow later -> Laid later text -> delimiter.Fails text) :
    Accepts (parser.delimitedBy delimiter) (Listed rule separator) follow := by
  have steps : forall tokens values, Listed rule separator tokens values ->
      forall later text, follow later -> Laid (tokens ++ later) text ->
      ∃ first others behind rest, values = first :: others ∧
        parser text = .success first behind ∧ (∃ consumed, text = consumed ++ behind) ∧
        Repeats (delimiter.skipLeft parser) behind others rest ∧
        (∃ consumed, behind = consumed ++ rest) ∧ Laid later rest := by
    intro tokens values listed
    induction listed with
    | @one tokens value phrase =>
        intro later text allowed laid
        rcases accepts tokens value later text phrase (ends later allowed) laid with
          ⟨consumed, rest, split, laidRest, succeeds⟩
        rcases refuses later rest allowed laidRest with ⟨last, fails⟩
        exact ⟨value, [], rest, rest, rfl, succeeds, ⟨consumed, split⟩,
          .stop (bind_of_failure _ fails), ⟨[], rfl⟩, laidRest⟩
    | @more tokens rest value values phrase others inductionHypothesis =>
        intro later text allowed laid
        rw [List.append_assoc] at laid
        rcases accepts tokens value _ text phrase (goesOn (rest ++ later)) laid with
          ⟨consumed, behind, split, laidBehind, succeeds⟩
        rcases takes (rest ++ later) behind laidBehind with
          ⟨_, inside, shorter, ⟨consumedDelimiter, splitDelimiter⟩, laidInside, succeedsDelimiter⟩
        rcases inductionHypothesis later inside allowed laidInside with
          ⟨first, tail, after, last, rfl, succeedsFirst, ⟨consumedFirst, splitFirst⟩, repeats,
            ⟨consumedTail, splitTail⟩, laidLast⟩
        refine ⟨value, first :: tail, behind, last, rfl, succeeds, ⟨consumed, split⟩, ?_, ?_,
          laidLast⟩
        · refine .step ?_ ?_ repeats
          · rw [Parser.skipLeft, bind_of_success succeedsDelimiter, succeedsFirst]
          · have lengths : inside.length = consumedFirst.length + after.length := by
              rw [splitFirst, List.length_append]
            omega
        · refine ⟨consumedDelimiter ++ (consumedFirst ++ consumedTail), ?_⟩
          rw [splitDelimiter, splitFirst, splitTail, List.append_assoc, List.append_assoc]
  intro tokens values later text listed allowed laid
  rcases steps tokens values listed later text allowed laid with
    ⟨first, others, behind, rest, rfl, succeeds, ⟨consumed, split⟩, repeats,
      ⟨consumedOthers, splitOthers⟩, laidRest⟩
  refine ⟨consumed ++ consumedOthers, rest, ?_, laidRest, ?_⟩
  · rw [split, splitOthers, List.append_assoc]
  · rw [Parser.delimitedBy, bind_of_success succeeds,
      map_of_success _ (many_of_repeats repeats)]

end Laws

/-!
## Tokens
-/

/-- A token is read with the blanks behind it if what stands inside its own
blanks is read. -/
theorem token_of_laid {α : Type} {parser : Parser α} {front tokens : List Token}
    {text blanks rest : Text} {value : α} (laid : Laid front text) (areBlank : AllBlank blanks)
    (laidRest : Laid tokens rest) (succeeds : parser text = .success value (blanks ++ rest)) :
    Parser.token parser text = .success value rest := by
  have inside : parser (text.dropWhile Text.isBlank) = .success value (blanks ++ rest) := by
    rw [laid.dropBlanks, succeeds]
  rw [token_of_success inside, laidRest.dropBlanks_append areBlank]

theorem token_of_laid_failure {α : Type} {parser : Parser α} {tokens : List Token}
    {text rest : Text} (laid : Laid tokens text) (fails : parser text = .failure rest) :
    Parser.token parser text = .failure rest := by
  refine token_of_failure ?_
  rw [laid.dropBlanks, fails]

/-- Whatever reads the characters of a token takes the token. -/
theorem takes_token {α : Type} {parser : Parser α} {token : Token}
    (reads : forall rest, ∃ value, parser (token.text ++ rest) = .success value rest) :
    Takes (Parser.token parser) token := by
  intro next text laid
  rcases laid.split with ⟨blanks, rest, split, areBlank, laidRest, _⟩
  rcases reads (blanks ++ rest) with ⟨value, succeeds⟩
  rcases token.text_eq_cons with ⟨others, starts⟩
  refine ⟨value, rest, ?_, ⟨token.text ++ blanks, ?_⟩, laidRest, ?_⟩
  · rw [split, starts]
    simp only [List.length_append, List.length_cons]
    omega
  · rw [split, List.append_assoc]
  · refine token_of_laid laid areBlank laidRest ?_
    rw [split, succeeds]

theorem takes_keyword (token : Token) : Takes (keyword token.text) token :=
  takes_token fun rest => ⟨_, symbol_append token.text rest⟩

theorem takes_mark (symbol : Mark) {character : Char} (spelled : symbol.text = [character]) :
    Takes (mark character) (.mark symbol) := by
  refine takes_token fun rest => ⟨character, ?_⟩
  rw [Token.text, spelled]
  exact satisfy_cons_of_true (beq_self_eq_true character) rest

/-- A mark fails in front of anything that starts differently. -/
theorem mark_refuses {character : Char} {tokens : List Token} {text : Text}
    (laid : Laid tokens text)
    (different : forall token, tokens.head? = some token -> token.first ≠ character) :
    mark character text = .failure text := by
  refine token_of_laid_failure laid (satisfy_of_stops (laid.stops ?_))
  intro token isFirst
  exact beq_eq_false_iff_ne.mpr (different token isFirst)

theorem keyword_refuses {literal : Text} (character : Char)
    (starts : literal.head? = some character) {tokens : List Token} {text : Text}
    (laid : Laid tokens text)
    (different : forall token, tokens.head? = some token -> token.first ≠ character) :
    keyword literal text = .failure text := by
  refine token_of_laid_failure laid ?_
  rw [symbol, if_neg]
  intro isPrefix
  rcases List.isPrefixOf_iff_prefix.mp isPrefix with ⟨rest, rfl⟩
  have first := laid.head?_eq
  rw [List.head?_append, starts, Option.some_or] at first
  rcases Option.map_eq_some_iff.mp first.symm with ⟨token, isFirst, same⟩
  exact different token isFirst same

/-- No letter stands behind a word. -/
theorem stops_word {next : List Token} {blanks rest : Text} (areBlank : AllBlank blanks)
    (laid : Laid next rest)
    (separate : blanks = [] -> forall token, next.head? = some token -> token.isWord = false) :
    (blanks ++ rest).takeWhile Text.isLetter = [] := by
  cases blanks with
  | nil => exact laid.stops fun token isFirst => Token.isLetter_first (separate rfl token isFirst)
  | cons blank others =>
      have noLetter := Text.isLetter_of_isBlank (areBlank blank List.mem_cons_self)
      rw [List.cons_append, List.takeWhile_cons_of_neg (by rw [noLetter]; decide)]

theorem accepts_word : Accepts word IsWord .anything := by
  rintro tokens letters next text ⟨spelled, rfl, rfl⟩ _ laid
  rcases laid.split with ⟨blanks, rest, split, areBlank, laidRest, separate⟩
  have stops := stops_word areBlank laidRest fun none => separate none rfl
  refine ⟨spelled.letters ++ blanks, rest, ?_, laidRest, ?_⟩
  · rw [split, List.append_assoc]
    rfl
  · refine token_of_laid laid areBlank laidRest ?_
    rw [split]
    exact atLeastOne_satisfy_append spelled.nonempty spelled.areLetters stops

theorem accepts_name : Accepts name IsName .anything := by
  refine (accepts_word.map Node.name).mono ?_ fun _ allowed => allowed
  rintro tokens node ⟨spelled, rfl, rfl⟩
  exact ⟨spelled.letters, ⟨spelled, rfl, rfl⟩, rfl⟩

theorem accepts_string : Accepts string IsString .anything := by
  have content (literal : Quoted) (rest : Text) :
      stringCharacter.many.between (char '"') (char '"') ((Token.quoted literal).text ++ rest) =
        .success literal.content rest := by
    refine quoted_eq_success_iff.mpr ⟨?_, literal.allowed⟩
    simp only [Token.text, List.cons_append, List.append_assoc, List.nil_append]
  rintro tokens node next text ⟨literal, rfl, rfl⟩ _ laid
  rcases laid.split with ⟨blanks, rest, split, areBlank, laidRest, _⟩
  refine ⟨(Token.quoted literal).text ++ blanks, rest, ?_, laidRest, ?_⟩
  · rw [split, List.append_assoc]
  · refine map_of_success Node.string (token_of_laid laid areBlank laidRest ?_)
    rw [split, content]

/-!
## Numbers
-/

/-- What stands behind a number does not go on with it. -/
structure EndsNumber (rest : Text) : Prop where
  noDigit : rest.takeWhile Text.isDigit = []
  noFraction : forall behind, rest = '.' :: behind -> behind.takeWhile Text.isDigit = []

theorem decimal_append (numeral : Numeral) {rest : Text} (ends : EndsNumber rest) :
    ∃ value, decimal ((Token.numeral numeral).text ++ rest) = .success value rest ∧
      numeral.value = value.convert .single := by
  rcases convertDecimal_numeral numeral with ⟨value, converted, isValue⟩
  have denotes : numeral.spelling.Denotes value := Spelling.denotes_iff.mpr converted
  have nothing : numeral.spelling.Ends rest := ⟨ends.noDigit, fun _ => ends.noFraction⟩
  refine ⟨value, ?_, isValue⟩
  rw [numeral.text_eq]
  exact nothing.decimal_of_denotes denotes

/-!
## What may follow an expression
-/

/-- What may stand behind an operand of a given strength: nothing, a closing
bracket, a separator, a looser operator or the next statement. -/
def Behind (bound : Nat) : Follow
  | [] => True
  | .mark .closeRound :: _ => True
  | .mark .closeBrace :: _ => True
  | .mark .dots :: _ => True
  | .mark .comma :: _ => True
  | .mark (.operator joins) :: _ => strength joins < bound
  | .word _ :: _ => True
  | _ => False

theorem Behind.mono {bound greater : Nat} (smaller : bound ≤ greater) {tokens : List Token}
    (behind : Behind bound tokens) : Behind greater tokens := by
  unfold Behind at behind ⊢
  split at behind <;> try trivial
  omega

theorem Behind.cases {bound : Nat} {token : Token} {next : List Token}
    (behind : Behind bound (token :: next)) :
    token = .mark .closeRound ∨ token = .mark .closeBrace ∨ token = .mark .dots ∨
      token = .mark .comma ∨
      (∃ joins, token = .mark (.operator joins) ∧ strength joins < bound) ∨
      ∃ spelled, token = .word spelled := by
  match token, behind with
  | .mark .closeRound, _ => exact .inl rfl
  | .mark .closeBrace, _ => exact .inr (.inl rfl)
  | .mark .dots, _ => exact .inr (.inr (.inl rfl))
  | .mark .comma, _ => exact .inr (.inr (.inr (.inl rfl)))
  | .mark (.operator joins), looser =>
      exact .inr (.inr (.inr (.inr (.inl ⟨joins, rfl, looser⟩))))
  | .word spelled, _ => exact .inr (.inr (.inr (.inr (.inr ⟨spelled, rfl⟩))))

theorem Behind.noDigit {bound : Nat} {token : Token} {next : List Token}
    (behind : Behind bound (token :: next)) : Text.isDigit token.first = false := by
  rcases behind.cases with rfl | rfl | rfl | rfl | ⟨joins, rfl, _⟩ | ⟨spelled, rfl⟩
  · decide
  · decide
  · decide
  · decide
  · cases joins <;> decide
  · exact Text.isDigit_of_isLetter (Token.isLetter_first_word spelled)

theorem first_word_ne {character : Char} (noLetter : Text.isLetter character = false)
    (spelled : Word) : (Token.word spelled).first ≠ character := by
  intro same
  have letter := Token.isLetter_first_word spelled
  rw [same, noLetter] at letter
  cases letter

/-- What follows the operands of an operator does not start with it. -/
theorem Behind.first_ne_symbol {operator : Operator} {token : Token} {next : List Token}
    (behind : Behind (strength operator) (token :: next)) :
    token.first ≠ operator.symbol := by
  rcases behind.cases with rfl | rfl | rfl | rfl | ⟨joins, rfl, looser⟩ | ⟨spelled, rfl⟩
  · cases operator <;> decide
  · cases operator <;> decide
  · cases operator <;> decide
  · cases operator <;> decide
  · intro same
    have equal : joins = operator := by
      cases joins <;> cases operator <;> first | rfl | exact absurd same (by decide)
    rw [equal] at looser
    exact absurd looser (Nat.lt_irrefl _)
  · refine first_word_ne ?_ spelled
    cases operator <;> decide

theorem Behind.first_ne_round {bound : Nat} {token : Token} {next : List Token}
    (behind : Behind bound (token :: next)) : token.first ≠ '(' := by
  rcases behind.cases with rfl | rfl | rfl | rfl | ⟨joins, rfl, _⟩ | ⟨spelled, rfl⟩
  · decide
  · decide
  · decide
  · decide
  · cases joins <;> decide
  · exact first_word_ne (by decide) spelled

theorem Behind.eq_dots {bound : Nat} {token : Token} {next : List Token}
    (behind : Behind bound (token :: next)) (isPoint : token.first = '.') :
    token = .mark .dots := by
  rcases behind.cases with rfl | rfl | rfl | rfl | ⟨joins, rfl, _⟩ | ⟨spelled, rfl⟩
  · exact absurd isPoint (by decide)
  · exact absurd isPoint (by decide)
  · rfl
  · exact absurd isPoint (by decide)
  · cases joins <;> exact absurd isPoint (by decide)
  · exact absurd isPoint (first_word_ne (by decide) spelled)

/-- Nothing that may follow goes on with a number.  Two points do not, because the
second one is no digit. -/
theorem Behind.endsNumber {bound : Nat} {tokens : List Token} (behind : Behind bound tokens)
    {blanks rest : Text} (areBlank : AllBlank blanks) (laid : Laid tokens rest) :
    EndsNumber (blanks ++ rest) := by
  constructor
  · refine stops_append areBlank (fun _ => Text.isDigit_of_isBlank) (laid.stops ?_)
    intro token isFirst
    cases tokens with
    | nil => cases isFirst
    | cons first next =>
        cases isFirst
        exact behind.noDigit
  · intro others starts
    cases blanks with
    | cons blank blanks =>
        cases starts
        exact absurd (areBlank '.' List.mem_cons_self) (by decide)
    | nil =>
        have first := laid.head?_eq
        rw [List.nil_append] at starts
        rw [starts] at first
        cases tokens with
        | nil => cases first
        | cons token next =>
            cases behind.eq_dots (Option.some.inj first).symm
            rcases laid.split with ⟨blanks, last, split, _⟩
            rw [starts] at split
            cases split
            exact List.takeWhile_cons_of_neg (by decide)

theorem accepts_number (bound : Nat) : Accepts number IsNumber (Behind bound) := by
  rintro tokens node next text ⟨numeral, rfl, rfl⟩ behind laid
  rcases laid.split with ⟨blanks, rest, split, areBlank, laidRest, _⟩
  rcases decimal_append numeral (behind.endsNumber areBlank laidRest) with
    ⟨value, succeeds, isValue⟩
  refine ⟨(Token.numeral numeral).text ++ blanks, rest, ?_, laidRest, ?_⟩
  · rw [split, List.append_assoc]
  · refine token_of_laid laid areBlank laidRest ?_
    rw [split, map_of_success _ succeeds, isValue]

theorem number_refuses {tokens : List Token} {text : Text} (laid : Laid tokens text)
    (different : forall token, tokens.head? = some token ->
      token.first ≠ '-' ∧ Text.isDigit token.first = false) :
    number.Fails text := by
  refine ⟨text, token_of_laid_failure laid (map_of_failure _ ?_)⟩
  exact decimal_refuses
    (laid.stops fun token isFirst => beq_eq_false_iff_ne.mpr (different token isFirst).1)
    (laid.stops fun token isFirst => (different token isFirst).2)

/-!
## Expressions
-/

section Rules

variable {inner : Parser Node} {rule : Rule Node}

theorem Accepts.parenthesized {α : Type} {parser : Parser α} {rule : Rule α}
    (accepts : Accepts parser rule (Behind 1)) :
    Accepts (Grammar.parenthesized parser) (fun tokens value =>
      ∃ inside, tokens = .mark .openRound :: inside ++ [.mark .closeRound] ∧ rule inside value)
      .anything :=
  accepts.between (takes_mark .openRound rfl) (takes_mark .closeRound rfl) fun _ => trivial

theorem Accepts.range (accepts : Accepts inner rule (Behind 1)) :
    Accepts (Grammar.range inner) (fun tokens node => ∃ starts stops start stop,
      tokens = .mark .openBrace :: starts ++ .mark .dots :: stops ++ [.mark .closeBrace] ∧
        rule starts start ∧ rule stops stop ∧ node = .range start stop) .anything := by
  have first := accepts.skipRight (takes_keyword (.mark .dots)) fun _ => trivial
  have last (start : Node) := accepts.bind
    (fun stop => Accepts.pure (Node.range start stop) (Behind 1))
    (by rintro _ _ _ later ⟨rfl, _⟩ behind; exact behind)
  have bounds := (first.bind last fun _ _ _ _ _ _ => trivial).between
    (takes_mark .openBrace rfl) (takes_mark .closeBrace rfl)
    fun _ => trivial
  refine bounds.mono ?_ fun _ allowed => allowed
  rintro tokens node ⟨starts, stops, start, stop, rfl, isStart, isStop, rfl⟩
  refine ⟨starts ++ .mark .dots :: stops, ?_, starts ++ [.mark .dots], stops, start, ?_,
    ⟨starts, rfl, isStart⟩, stops, [], stop, (List.append_nil _).symm, isStop, rfl, rfl⟩
  · simp only [List.cons_append]
  · rw [List.append_assoc]
    rfl

theorem Accepts.elements (accepts : Accepts inner rule (Behind 1)) :
    Accepts (braced ((inner.delimitedBy (keyword ",".toList)).map Node.sequence))
      (fun tokens node => ∃ inside elements,
        tokens = .mark .openBrace :: inside ++ [.mark .closeBrace] ∧
        Listed rule .comma inside elements ∧ node = Node.sequence elements) .anything := by
  have listed : Accepts (inner.delimitedBy (keyword ",".toList)) (Listed rule .comma)
      (fun later => later.head? = some (.mark .closeBrace)) := by
    refine accepts.delimitedBy (takes_keyword (.mark .comma)) (fun _ => trivial) ?_ ?_
    · intro later closes
      cases later with
      | nil => cases closes
      | cons token later => cases closes; trivial
    · intro later text closes laid
      refine ⟨text, keyword_refuses ',' rfl laid ?_⟩
      intro token isFirst
      rw [closes] at isFirst
      cases isFirst
      decide
  have elements := (listed.map Node.sequence).between
    (takes_mark .openBrace rfl) (takes_mark .closeBrace rfl)
    fun _ => rfl
  refine elements.mono ?_ fun _ allowed => allowed
  rintro tokens node ⟨inside, elements, rfl, isList, rfl⟩
  exact ⟨inside, rfl, elements, isList, rfl⟩

theorem Accepts.mapper (accepts : Accepts inner rule (Behind 1)) :
    Accepts (Grammar.mapper inner) (fun tokens node => ∃ (parameter : Word)
      (bodies : List Token) (body : Node),
        tokens = .word parameter :: .mark .arrow :: bodies ∧ rule bodies body ∧
        node = .mapper (.name parameter.letters) body) (Behind 1) := by
  have parameters := accepts_name.skipRight (takes_keyword (.mark .arrow)) fun _ => trivial
  have function := (parameters.bind
    (fun parameter => accepts.map fun body => Node.mapper parameter body)
    fun _ _ _ _ _ _ => trivial).token
  refine function.mono ?_ fun _ allowed => allowed
  rintro tokens node ⟨parameter, bodies, body, rfl, gives, rfl⟩
  exact ⟨[.word parameter, .mark .arrow], bodies, .name parameter.letters, rfl,
    ⟨[.word parameter], rfl, parameter, rfl, rfl⟩, body, gives, rfl⟩

theorem Accepts.reducer (accepts : Accepts inner rule (Behind 1)) :
    Accepts (Grammar.reducer inner) (fun tokens node => ∃ (first second : Word)
      (bodies : List Token) (body : Node),
        tokens = .word first :: .word second :: .mark .arrow :: bodies ∧ rule bodies body ∧
        node = .reducer (.name first.letters) (.name second.letters) body) (Behind 1) := by
  have seconds := accepts_name.skipRight (takes_keyword (.mark .arrow)) fun _ => trivial
  have function := (accepts_name.bind (fun first => seconds.bind
    (fun second => accepts.map fun body => Node.reducer first second body)
    fun _ _ _ _ _ _ => trivial) fun _ _ _ _ _ _ => trivial).token
  refine function.mono ?_ fun _ allowed => allowed
  rintro tokens node ⟨first, second, bodies, body, rfl, gives, rfl⟩
  exact ⟨[.word first], .word second :: .mark .arrow :: bodies, .name first.letters, rfl,
    ⟨first, rfl, rfl⟩, [.word second, .mark .arrow], bodies, .name second.letters, rfl,
    ⟨[.word second], rfl, second, rfl, rfl⟩, body, gives, rfl⟩

theorem Accepts.mapping (accepts : Accepts inner rule (Behind 1)) :
    Accepts (Grammar.map inner) (fun tokens node => ∃ (parameter : Word)
      (sources bodies : List Token) (source body : Node),
        tokens = .word .map :: .mark .openRound :: sources ++ .mark .comma :: .word parameter ::
          .mark .arrow :: bodies ++ [.mark .closeRound] ∧ rule sources source ∧
        rule bodies body ∧ node = .map source (.mapper (.name parameter.letters) body))
      .anything := by
  have sources := accepts.skipRight (takes_keyword (.mark .comma)) fun _ => trivial
  have inside := (sources.bind
    (fun source => accepts.mapper.map fun function => Node.map source function)
    fun _ _ _ _ _ _ => trivial).parenthesized
  refine (Accepts.skipLeft (takes_keyword (.word .map)) inside).mono ?_ fun _ allowed => allowed
  rintro tokens node ⟨parameter, sources, bodies, source, body, rfl, takes, gives, rfl⟩
  refine ⟨.mark .openRound :: (sources ++ [.mark .comma] ++ .word parameter :: .mark .arrow ::
    bodies) ++ [.mark .closeRound], ?_, _, rfl, sources ++ [.mark .comma],
    .word parameter :: .mark .arrow :: bodies, source, rfl, ⟨sources, rfl, takes⟩, _,
    ⟨parameter, bodies, body, rfl, gives, rfl⟩, rfl⟩
  simp only [List.cons_append, List.append_assoc, List.nil_append]

theorem Accepts.reduction (accepts : Accepts inner rule (Behind 1)) :
    Accepts (Grammar.reduce inner) (fun tokens node => ∃ (first second : Word)
      (sources primers bodies : List Token) (source primer body : Node),
        tokens = .word .reduce :: .mark .openRound :: sources ++ .mark .comma :: primers ++
          .mark .comma :: .word first :: .word second :: .mark .arrow :: bodies ++
          [.mark .closeRound] ∧ rule sources source ∧ rule primers primer ∧
        rule bodies body ∧ node = .reduce source primer
          (.reducer (.name first.letters) (.name second.letters) body)) .anything := by
  have parts := accepts.skipRight (takes_keyword (.mark .comma)) fun _ => trivial
  have inside := (parts.bind (fun source => parts.bind
    (fun primer => accepts.reducer.map fun function => Node.reduce source primer function)
    fun _ _ _ _ _ _ => trivial) fun _ _ _ _ _ _ => trivial).parenthesized
  refine (Accepts.skipLeft (takes_keyword (.word .reduce)) inside).mono ?_
    fun _ allowed => allowed
  rintro tokens node
    ⟨first, second, sources, primers, bodies, source, primer, body, rfl, takes, starts, gives, rfl⟩
  refine ⟨.mark .openRound :: (sources ++ [.mark .comma] ++ (primers ++ [.mark .comma] ++
    .word first :: .word second :: .mark .arrow :: bodies)) ++ [.mark .closeRound], ?_, _, rfl,
    sources ++ [.mark .comma], _, source, rfl, ⟨sources, rfl, takes⟩, primers ++ [.mark .comma],
    .word first :: .word second :: .mark .arrow :: bodies, primer, rfl, ⟨primers, rfl, starts⟩, _,
    ⟨first, second, bodies, body, rfl, gives, rfl⟩, rfl⟩
  simp only [List.cons_append, List.append_assoc, List.nil_append]

theorem parenthesized_fails {α : Type} (parser : Parser α) {tokens : List Token} {text : Text}
    (laid : Laid tokens text)
    (different : forall token, tokens.head? = some token -> token.first ≠ '(') :
    (Grammar.parenthesized parser).Fails text :=
  Fails.bind ⟨text, mark_refuses laid different⟩ _

theorem braced_fails {α : Type} (parser : Parser α) {tokens : List Token} {text : Text}
    (laid : Laid tokens text)
    (different : forall token, tokens.head? = some token -> token.first ≠ '\x7b') :
    (braced parser).Fails text :=
  Fails.bind ⟨text, mark_refuses laid different⟩ _

/-- Without braces there is neither a range nor a sequence. -/
theorem sequence_fails (inner : Parser Node) {tokens : List Token} {text : Text}
    (laid : Laid tokens text)
    (different : forall token, tokens.head? = some token -> token.first ≠ '\x7b') :
    (Grammar.sequence inner).Fails text := by
  refine (braced_fails _ laid different).orElse (Fails.map (Fails.bind ⟨text, ?_⟩ _) _)
  exact mark_refuses laid different

/-- After an opening brace and an expression without two points there is no
range. -/
theorem range_fails_of_listed (accepts : Accepts inner rule (Behind 1)) {inside next : List Token}
    {elements : List Node} {text : Text} (listed : Listed rule .comma inside elements)
    (laid : Laid (.mark .openBrace :: inside ++ .mark .closeBrace :: next) text) :
    (Grammar.range inner).Fails text := by
  rcases takes_mark .openBrace rfl (inside ++ .mark .closeBrace :: next) text laid with
    ⟨_, behind, _, _, laidBehind, opens⟩
  refine fails_bind_of_success opens (Fails.bind (Fails.bind ?_ _) _)
  -- The first element is read; a comma or a brace stands behind it.
  have refused {tokens later : List Token} {value : Node} {token : Token}
      (first : rule tokens value) (laid : Laid (tokens ++ token :: later) behind)
      (allowed : Behind 1 (token :: later)) (different : token.first ≠ '.') :
      (inner.skipRight (keyword "..".toList)).Fails behind := by
    rcases accepts tokens value (token :: later) behind first allowed laid with
      ⟨_, rest, _, laidRest, succeeds⟩
    refine fails_bind_of_success succeeds (Fails.map ⟨rest, ?_⟩ _)
    refine keyword_refuses '.' rfl laidRest fun other isFirst => ?_
    cases isFirst
    exact different
  cases listed with
  | one first => exact refused first laidBehind trivial (by decide)
  | more first others =>
      rw [List.append_assoc] at laidBehind
      exact refused first laidBehind trivial (by decide)

/-- A word is not the start of an application unless a bracket follows, even if
it starts like one. -/
theorem application_fails {α : Type} (function spelled : Word) (parser : Parser α)
    {next : List Token} {text : Text} (laid : Laid (.word spelled :: next) text)
    (different : forall token, next.head? = some token -> token.first ≠ '(') :
    ((keyword function.letters).skipLeft (Grammar.parenthesized parser)).Fails text := by
  cases symbolic : symbol function.letters text with
  | fault fault => rw [symbol] at symbolic; split at symbolic <;> cases symbolic
  | failure rest => exact Fails.bind ⟨rest, token_of_laid_failure laid symbolic⟩ _
  | success value behind =>
      rcases laid.split with ⟨blanks, rest, split, areBlank, laidRest, separate⟩
      have run : text.takeWhile Text.isLetter = spelled.letters := by
        have stops := stops_word areBlank laidRest fun none => separate none rfl
        rw [split, Token.text, List.takeWhile_append_of_pos spelled.areLetters, stops,
          List.append_nil]
      -- The function's name is the front of the word.
      have isFront : text = function.letters ++ behind := symbol_eq_success symbolic
      rw [isFront, List.takeWhile_append_of_pos function.areLetters] at run
      have applied : keyword function.letters text =
          .success value (behind.dropWhile Text.isBlank) := by
        refine token_of_success ?_
        rw [laid.dropBlanks, symbolic]
      refine fails_bind_of_success applied (Fails.bind ?_ _)
      have behind_eq : behind = behind.takeWhile Text.isLetter ++ (blanks ++ rest) := by
        rw [isFront, Token.text, ← run, List.append_assoc] at split
        exact List.append_cancel_left split
      cases more : behind.takeWhile Text.isLetter with
      | nil =>
          rw [more, List.nil_append] at behind_eq
          rw [behind_eq, laidRest.dropBlanks_append areBlank]
          exact ⟨rest, mark_refuses laidRest different⟩
      | cons first others =>
          have letter : Text.isLetter first = true := by
            refine List.mem_takeWhile_imp (l := behind) ?_
            rw [more]
            exact List.mem_cons_self
          have noBracket : first ≠ '(' := by
            rintro rfl
            exact absurd letter (by decide)
          rw [more, List.cons_append] at behind_eq
          have noBlank : behind.dropWhile Text.isBlank = behind := by
            rw [behind_eq, List.dropWhile_cons_of_neg]
            rw [Text.isBlank_of_isLetter letter]
            decide
          rw [noBlank]
          refine ⟨behind, token_of_failure ?_⟩
          rw [noBlank, behind_eq, char, satisfy, if_neg]
          rw [beq_eq_false_iff_ne.mpr noBracket]
          decide

theorem Accepts.chain (operator : Operator)
    (accepts : Accepts inner rule (Behind (strength operator + 1))) :
    Accepts (Grammar.chain operator inner) (Chain operator rule)
      (Behind (strength operator)) := by
  have listed : Accepts (inner.delimitedBy (keyword [operator.symbol]))
      (Listed rule (.operator operator)) (Behind (strength operator)) := by
    refine accepts.delimitedBy (takes_keyword (.mark (.operator operator)))
      (fun _ => Nat.lt_succ_self _) (fun _ => Behind.mono (Nat.le_succ _)) ?_
    intro later text behind laid
    refine ⟨text, keyword_refuses operator.symbol rfl laid ?_⟩
    intro token isFirst
    cases later with
    | nil => cases isFirst
    | cons other later =>
        cases isFirst
        exact behind.first_ne_symbol
  refine (listed.map (Node.operation operator)).mono ?_ fun _ allowed => allowed
  rintro tokens node ⟨isList⟩
  exact ⟨_, isList, rfl⟩

/-- The forms of atom that start with a bracket, in the order in which they are
tried. -/
def bracketed (inner : Parser Node) : Parser Node :=
  ((Grammar.parenthesized inner).orElse (Grammar.range inner)).orElse (Grammar.sequence inner)

theorem atom_eq (inner : Parser Node) :
    Grammar.atom inner = Parser.token (((((bracketed inner).orElse number).orElse
      (Grammar.reduce inner)).orElse (Grammar.map inner)).orElse name) := rfl

/-- Names, numbers and applications start with neither bracket. -/
theorem bracketed_fails (inner : Parser Node) {token : Token} {next : List Token} {text : Text}
    (laid : Laid (token :: next) text) (noRound : token.first ≠ '(')
    (noBrace : token.first ≠ '\x7b') : (bracketed inner).Fails text := by
  have round : (Grammar.parenthesized inner).Fails text :=
    parenthesized_fails inner laid fun other isFirst => by cases isFirst; exact noRound
  have brace : forall other, (token :: next).head? = some other -> other.first ≠ '\x7b' := by
    intro other isFirst
    cases isFirst
    exact noBrace
  exact (round.orElse (braced_fails _ laid brace)).orElse (sequence_fails inner laid brace)

/-- Everything in front of the applications fails at a word. -/
theorem unnamed_fail (inner : Parser Node) {spelled : Word} {next : List Token} {text : Text}
    (laid : Laid (.word spelled :: next) text) :
    ((bracketed inner).orElse number).Fails text := by
  have brackets := bracketed_fails inner laid (first_word_ne (by decide) spelled)
    (first_word_ne (by decide) spelled)
  refine brackets.orElse (number_refuses laid ?_)
  intro token isFirst
  cases isFirst
  exact ⟨first_word_ne (by decide) spelled,
    Text.isDigit_of_isLetter (Token.isLetter_first_word spelled)⟩

theorem Accepts.emptyBraces
    (refuses : forall next text, Laid (.mark .closeBrace :: next) text -> inner.Fails text) :
    Accepts (bracketed inner) (fun tokens node =>
      tokens = [.mark .openBrace, .mark .closeBrace] ∧ node = .sequence []) .anything := by
  rintro tokens node next text ⟨rfl, rfl⟩ _ laid
  rcases takes_mark .openBrace rfl (.mark .closeBrace :: next) text laid with
    ⟨_, inside, _, ⟨consumed, split⟩, laidInside, opens⟩
  rcases takes_mark .closeBrace rfl next inside laidInside with
    ⟨_, rest, _, ⟨consumedInside, splitInside⟩, laidRest, closes⟩
  -- With no expression between the braces both other forms fail.
  have noExpression : inner.Fails inside := refuses next inside laidInside
  have noRound : (Grammar.parenthesized inner).Fails text :=
    parenthesized_fails inner laid fun token isFirst => by cases isFirst; decide
  have noRange : (Grammar.range inner).Fails text :=
    fails_bind_of_success opens (((noExpression.bind _).bind _).bind _)
  have noElements : (braced ((inner.delimitedBy (keyword ",".toList)).map Node.sequence)).Fails
      text := fails_bind_of_success opens (((noExpression.bind _).map _).bind _)
  refine ⟨consumed ++ consumedInside, rest, ?_, laidRest, ?_⟩
  · rw [split, splitInside, List.append_assoc]
  · have empty : ((mark '\x7b').bind fun _ => mark '\x7d') text = .success _ rest :=
      (bind_of_success opens).trans closes
    rw [bracketed, (noRound.orElse noRange).orElse_eq, Grammar.sequence, noElements.orElse_eq]
    exact map_of_success (fun _ => Node.sequence []) empty

theorem first_numeral_ne {character : Char} (noMinus : character ≠ '-')
    (noDigit : Text.isDigit character = false) (numeral : Numeral) :
    (Token.numeral numeral).first ≠ character := by
  rw [Token.first]
  split
  · exact noMinus.symm
  · intro same
    have digit := Token.isDigit_of_mem_whole numeral (List.head_mem numeral.nonempty)
    rw [same, noDigit] at digit
    cases digit

/-- Every form of atom is read by its own alternative, because those tried before
it fail.  Ranges and sequences start alike; they differ behind the first
expression.  Words are tried as applications first. -/
theorem Accepts.atom (accepts : Accepts inner rule (Behind 1))
    (refuses : forall next text, Laid (.mark .closeBrace :: next) text -> inner.Fails text) :
    Accepts (Grammar.atom inner) (Atom rule) (Behind 6) := by
  have ranges := accepts.range.orRight (Grammar.parenthesized inner) (by
    rintro tokens node next text ⟨starts, stops, start, stop, rfl, _⟩ _ laid
    exact parenthesized_fails inner laid fun token isFirst => by cases isFirst; decide)
  have sequences := (accepts.elements.orLeft
    (((mark '\x7b').skipLeft (mark '\x7d')).mapTo (.sequence []))).orRight
    ((Grammar.parenthesized inner).orElse (Grammar.range inner)) (by
    rintro tokens node next text ⟨inside, elements, rfl, listed, _⟩ _ laid
    rw [List.append_assoc] at laid
    exact (parenthesized_fails inner laid fun token isFirst => by cases isFirst; decide).orElse
      (range_fails_of_listed accepts listed laid))
  have numbers := (accepts_number 6).orRight (bracketed inner) (by
    rintro tokens node next text ⟨numeral, rfl, _⟩ _ laid
    exact bracketed_fails inner laid (first_numeral_ne (by decide) (by decide) numeral)
      (first_numeral_ne (by decide) (by decide) numeral))
  have reductions := accepts.reduction.orRight ((bracketed inner).orElse number) (by
    rintro tokens node next text ⟨first, second, sources, primers, bodies, _, _, _, rfl, _⟩ _ laid
    exact unnamed_fail inner laid)
  have mappings := accepts.mapping.orRight (((bracketed inner).orElse number).orElse
    (Grammar.reduce inner)) (by
    rintro tokens node next text ⟨parameter, sources, bodies, _, _, rfl, _⟩ _ laid
    refine (unnamed_fail inner laid).orElse (Fails.bind ⟨text, ?_⟩ _)
    exact keyword_refuses 'r' rfl laid fun token isFirst => by cases isFirst; decide)
  have words : Accepts name IsName (Behind 6) :=
    accepts_name.mono (fun _ _ isName => isName) fun _ _ => trivial
  have names := words.orRight ((((bracketed inner).orElse number).orElse
    (Grammar.reduce inner)).orElse (Grammar.map inner)) (by
    rintro tokens node next text ⟨spelled, rfl, _⟩ behind laid
    have noBracket : forall token, next.head? = some token -> token.first ≠ '(' := by
      intro token isFirst
      cases next with
      | nil => cases isFirst
      | cons other later => cases isFirst; exact behind.first_ne_round
    exact ((unnamed_fail inner laid).orElse (application_fails .reduce spelled _ laid
      noBracket)).orElse (application_fails .map spelled _ laid noBracket))
  rw [atom_eq]
  refine Accepts.token ?_
  intro tokens node next text phrase behind laid
  cases phrase with
  | @parenthesized inside node isInner =>
      exact (((((accepts.parenthesized.orLeft _).orLeft _).orLeft _).orLeft _).orLeft _).orLeft _
        _ node next text ⟨inside, rfl, isInner⟩ trivial laid
  | @range starts stops start stop isStart isStop =>
      exact ((((ranges.orLeft _).orLeft _).orLeft _).orLeft _).orLeft _ _ _ next text
        ⟨starts, stops, start, stop, rfl, isStart, isStop, rfl⟩ trivial laid
  | @sequence inside elements listed =>
      exact (((sequences.orLeft _).orLeft _).orLeft _).orLeft _ _ _ next text
        ⟨inside, elements, rfl, listed, rfl⟩ trivial laid
  | empty =>
      exact ((((Accepts.emptyBraces refuses).orLeft _).orLeft _).orLeft _).orLeft _ _ _ next text
        ⟨rfl, rfl⟩ trivial laid
  | number numeral =>
      exact ((numbers.orLeft _).orLeft _).orLeft _ _ _ next text ⟨numeral, rfl, rfl⟩ behind laid
  | @map sources bodies source body parameter takes gives =>
      exact mappings.orLeft _ _ _ next text
        ⟨parameter, sources, bodies, source, body, rfl, takes, gives, rfl⟩ trivial laid
  | @reduce sources primers bodies source primer body first second takes starts gives =>
      exact (reductions.orLeft _).orLeft _ _ _ next text
        ⟨first, second, sources, primers, bodies, source, primer, body, rfl, takes, starts, gives,
          rfl⟩ trivial laid
  | name spelled => exact names _ _ next text ⟨spelled, rfl, rfl⟩ behind laid

theorem Accepts.sums (accepts : Accepts inner rule (Behind 1))
    (refuses : forall next text, Laid (.mark .closeBrace :: next) text -> inner.Fails text) :
    Accepts (Grammar.sums inner) (Sums rule) (Behind 1) := by
  have atoms := accepts.atom refuses
  have powers := Accepts.chain .power atoms
  have quotients := Accepts.chain .over powers
  have products := Accepts.chain .times quotients
  have differences := Accepts.chain .minus products
  exact Accepts.chain .plus differences

/-- No expression starts with a closing brace, whatever stands inside. -/
theorem sums_fails (inner : Parser Node) {next : List Token} {text : Text}
    (laid : Laid (.mark .closeBrace :: next) text) : (Grammar.sums inner).Fails text := by
  have noWord : (letter.atLeastOne).Fails text := by
    refine ⟨text, ?_⟩
    rw [letter, atLeastOne_satisfy, if_pos]
    exact laid.stops fun token isFirst => by cases isFirst; decide
  have noName : name.Fails text := by
    rcases noWord with ⟨rest, fails⟩
    exact Fails.map ⟨rest, token_of_laid_failure laid fails⟩ _
  have noNumber : number.Fails text :=
    number_refuses laid fun token isFirst => by cases isFirst; decide
  have noReduction : (Grammar.reduce inner).Fails text :=
    Fails.bind ⟨text, keyword_refuses 'r' rfl laid fun token isFirst => by
      cases isFirst; decide⟩ _
  have noMapping : (Grammar.map inner).Fails text :=
    Fails.bind ⟨text, keyword_refuses 'm' rfl laid fun token isFirst => by
      cases isFirst; decide⟩ _
  have noAtom : (Grammar.atom inner).Fails text := by
    rcases ((((bracketed_fails inner laid (by decide) (by decide)).orElse noNumber).orElse
      noReduction).orElse noMapping).orElse noName with ⟨rest, fails⟩
    exact ⟨rest, token_of_laid_failure laid fails⟩
  have chained {item : Parser Node} (operator : Operator) (fails : item.Fails text) :
      (Grammar.chain operator item).Fails text := (fails.bind _).map _
  exact chained .plus (chained .minus (chained .times (chained .over (chained .power noAtom))))

end Rules

/-- With room for one more expression, every expression is read.  The induction is
on the bound of the nesting. -/
theorem accepts_expression (depth : Nat) :
    Accepts (expression (depth + 1)) (Expression depth) (Behind 1) := by
  induction depth with
  | zero => intro tokens node next text impossible; cases impossible
  | succ depth inductionHypothesis =>
      exact inductionHypothesis.sums fun next text laid => sums_fails (expression depth) laid

/-!
## Statements and programs
-/

theorem accepts_statement (depth : Nat) :
    Accepts (statement (depth + 1)) (Normalized depth) (Behind 1) := by
  have expressions := accepts_expression depth
  have names := accepts_name.skipRight (takes_keyword (.mark .equals)) fun _ => trivial
  have declarations := Accepts.skipLeft (takes_keyword (.word .var)) (names.bind
    (fun declared => expressions.map fun value => Node.declare declared value)
    fun _ _ _ _ _ _ => trivial)
  have outputs := (Accepts.skipLeft (takes_keyword (.word .out)) (expressions.map Node.out)).orRight
    (declaration (depth + 1)) (by
      rintro tokens node next text ⟨inside, rfl, _⟩ _ laid
      exact Fails.bind ⟨text, keyword_refuses 'v' rfl laid fun token isFirst => by
        cases isFirst; decide⟩ _)
  have printings := (Accepts.skipLeft (takes_keyword (.word .print))
    (accepts_string.map Node.print)).orRight
    ((declaration (depth + 1)).orElse (output (depth + 1))) (by
      rintro tokens node next text ⟨inside, rfl, _⟩ _ laid
      exact Fails.orElse
        (Fails.bind ⟨text, keyword_refuses 'v' rfl laid fun token isFirst => by
          cases isFirst; decide⟩ _)
        (Fails.bind ⟨text, keyword_refuses 'o' rfl laid fun token isFirst => by
          cases isFirst; decide⟩ _))
  have raws : Accepts (((declaration (depth + 1)).orElse (output (depth + 1))).orElse printing)
      (Statement depth) (Behind 1) := by
    intro tokens node next text phrase behind laid
    cases phrase with
    | @declaration tokens node declared bound =>
        exact (declarations.orLeft _).orLeft _ _ _ next text
          ⟨_, rfl, [.word declared, .mark .equals], tokens, .name declared.letters, rfl,
            ⟨[.word declared], rfl, declared, rfl, rfl⟩, node, bound, rfl⟩ behind laid
    | @output tokens node shown =>
        exact outputs.orLeft _ _ _ next text ⟨tokens, rfl, node, shown, rfl⟩ behind laid
    | printing literal =>
        exact printings _ _ next text
          ⟨_, rfl, .string literal.content, ⟨literal, rfl, rfl⟩, rfl⟩ trivial laid
  rintro tokens node next text ⟨raw, phrase, normal⟩ behind laid
  rcases raws tokens raw next text phrase behind laid with
    ⟨consumed, rest, split, laidRest, succeeds⟩
  refine ⟨consumed, rest, split, laidRest, ?_⟩
  rw [statement, bind_of_success succeeds, normal]
  rfl

theorem Padded.ne_nil {token : Token} {tokens : List Token} {text : Text}
    (padded : Padded (token :: tokens) text) : text ≠ [] := by
  cases padded with
  | cons areBlank padded =>
      rcases token.text_eq_cons with ⟨others, starts⟩
      simp [starts]

/-- Every statement starts with a word, which is why no statement is read as a
part of the one before. -/
theorem Statement.starts {depth : Nat} {tokens : List Token} {node : Node}
    (phrase : Statement depth tokens node) :
    ∃ (spelled : Word) (others : List Token), tokens = .word spelled :: others := by
  cases phrase with
  | declaration declared bound => exact ⟨.var, _, rfl⟩
  | output shown => exact ⟨.out, _, rfl⟩
  | printing literal => exact ⟨.print, _, rfl⟩

theorem Program.starts {depth : Nat} {tokens : List Token} {nodes : List Node}
    (phrase : Program depth tokens nodes) :
    ∃ (spelled : Word) (others : List Token), tokens = .word spelled :: others := by
  cases phrase with
  | one statement => exact statement.starts
  | more first others =>
      rcases first.starts with ⟨spelled, rest, rfl⟩
      exact ⟨spelled, _, rfl⟩

/-- A statement is never empty. -/
theorem statement_shortens {depth : Nat} {text rest : Text} {node : Node}
    (succeeds : statement depth text = .success node rest) : rest.length < text.length := by
  rcases reads_statement depth text node rest succeeds with
    ⟨consumed, tokens, split, padded, raw, phrase, _⟩
  rcases phrase.starts with ⟨spelled, others, rfl⟩
  have something := List.length_pos_iff.mpr padded.ne_nil
  rw [split, List.length_append]
  omega

/-- Blanks in front of a statement do not matter. -/
theorem statement_congr (depth : Nat) {first second : Text}
    (same : first.dropWhile Text.isBlank = second.dropWhile Text.isBlank) :
    statement depth first = statement depth second := by
  simp only [statement, declaration, output, printing, Parser.skipLeft, Parser.bind,
    Parser.orElse, keyword, token_congr _ same]

theorem statement_nil (depth : Nat) : (statement depth).Fails [] := by
  have noKeyword (literal : Text) (nonempty : literal ≠ []) : (keyword literal).Fails [] := by
    refine ⟨[], token_of_failure ?_⟩
    cases literal with
    | nil => exact absurd rfl nonempty
    | cons first others => rfl
  exact ((((noKeyword _ (by decide)).bind _).orElse ((noKeyword _ (by decide)).bind _)).orElse
    ((noKeyword _ (by decide)).bind _)).bind _

/-- All line ends in front of a statement are blanks. -/
theorem lineEnds_dropBlanks (text : Text) :
    (char '\n').many (text.dropWhile Text.isBlank) =
      .success [] (text.dropWhile Text.isBlank) := by
  have stops : (text.dropWhile Text.isBlank).takeWhile (· == '\n') = [] := by
    cases dropped : text.dropWhile Text.isBlank with
    | nil => rfl
    | cons first rest =>
        have notBlank : Text.isBlank first = false := by
          have head := List.head?_dropWhile_not Text.isBlank text
          rwa [dropped] at head
        refine List.takeWhile_cons_of_neg ?_
        intro lineEnd
        rw [beq_iff_eq.mp lineEnd] at notBlank
        exact absurd notBlank (by decide)
  exact many_of_repeats (.stop (satisfy_of_stops stops))

theorem lineEnds_none {tokens : List Token} {text : Text} (laid : Laid tokens text) :
    (char '\n').many text = .success [] text := by
  have none := lineEnds_dropBlanks text
  rwa [laid.dropBlanks] at none

/-- Every program is read to its end.  The induction is on its statements; no line
ends are left between them, because each statement takes those behind it. -/
theorem program_repeats {depth : Nat} {tokens : List Token} {raws nodes : List Node} {text : Text}
    (phrase : Program depth tokens raws) (normal : Node.normalizeAll raws = .ok nodes)
    (laid : Laid tokens text) :
    ∃ first others behind, nodes = first :: others ∧
      statement (depth + 1) text = .success first behind ∧
      Repeats ((char '\n').many.skipLeft (statement (depth + 1))) behind others [] := by
  induction phrase generalizing nodes text with
  | @one tokens raw isStatement =>
      rcases Node.normalizeAll_eq_ok normal with ⟨node, others, rfl, isNormal, none⟩
      cases none
      rcases accepts_statement depth tokens node [] text ⟨raw, isStatement, isNormal⟩ trivial
        (by rwa [List.append_nil]) with ⟨consumed, rest, split, laidRest, succeeds⟩
      cases laidRest
      have ends : ((char '\n').many.skipLeft (statement (depth + 1))).Fails [] := by
        refine fails_bind_of_success (lineEnds_none .nil) ?_
        exact statement_nil (depth + 1)
      rcases ends with ⟨last, fails⟩
      exact ⟨node, [], [], rfl, succeeds, .stop fails⟩
  | @more tokens rest raw raws isStatement others inductionHypothesis =>
      rcases Node.normalizeAll_eq_ok normal with ⟨node, nodes, rfl, isNormal, areNormal⟩
      rcases others.starts with ⟨spelled, tail, rfl⟩
      rcases accepts_statement depth tokens node (.word spelled :: tail) text
        ⟨raw, isStatement, isNormal⟩ trivial laid with
        ⟨consumed, behind, split, laidBehind, succeeds⟩
      rcases inductionHypothesis areNormal laidBehind with
        ⟨next, later, after, rfl, succeedsNext, repeats⟩
      refine ⟨node, next :: later, behind, rfl, succeeds, .step ?_ ?_ repeats⟩
      · rw [Parser.skipLeft, bind_of_success (lineEnds_none laidBehind), succeedsNext]
      · exact statement_shortens succeedsNext

/-- A program is read when its statements are read one behind the other. -/
theorem parseProgram_of_repeats {depth : Nat} {text behind : Text} {first : Node}
    {others : List Node} (started : statement depth text = .success first behind)
    (repeats : Repeats ((char '\n').many.skipLeft (statement depth)) behind others []) :
    parseProgram depth text = .success (first :: others) := by
  have read : (statement depth).delimitedBy (char '\n').many text =
      .success (first :: others) [] := by
    rw [Parser.delimitedBy, bind_of_success started, map_of_success _ (many_of_repeats repeats)]
  have atEnd : endOfText [] = .success () [] := rfl
  simp only [parseProgram, Grammar.read, wholeProgram, Parser.skipRight, bind_of_success read,
    mapTo, map_of_success _ atEnd]

/-- A program that is laid out, with any blanks in front of it, is read to the
normal form of its trees. -/
theorem parseProgram_of_program {depth : Nat} {tokens : List Token} {raws nodes : List Node}
    {blanks text : Text} (phrase : Program depth tokens raws)
    (normal : Node.normalizeAll raws = .ok nodes) (areBlank : AllBlank blanks)
    (laid : Laid tokens text) :
    parseProgram (depth + 1) (blanks ++ text) = .success nodes := by
  rcases program_repeats phrase normal laid with ⟨first, others, behind, rfl, succeeds, repeats⟩
  refine parseProgram_of_repeats ?_ repeats
  rw [← succeeds]
  refine statement_congr (depth + 1) ?_
  rw [laid.dropBlanks_append areBlank, laid.dropBlanks]

end Grammar
end SequenceCalculator
