import SequenceCalculator.Proofs.Grammar.Layout
import SequenceCalculator.Proofs.Parsing.Numerals
import SequenceCalculator.Proofs.Tree.Normalization

namespace SequenceCalculator
namespace Grammar

/-!
# Whatever is read is a phrase

A parser reads a rule when the part of the text that it takes is made of the
tokens of a phrase, in order, with nothing but blanks around them, and its value
is the tree of that phrase.  There is one law for every combinator.  The laws say
nothing about failed attempts, so the order of alternatives does not matter, and
they hold for every text.
-/

open Number SequenceCalculator.Parser

section Laws

variable {α β γ : Type}

/-- Whatever a parser takes is a phrase of a rule, and its value is the tree. -/
def Reads (parser : Parser α) (rule : Rule α) : Prop :=
  forall text value rest, parser text = .success value rest ->
    ∃ consumed tokens, text = consumed ++ rest ∧ Padded tokens consumed ∧ rule tokens value

/-- A phrase followed by one that depends on its tree. -/
def Rule.bind (first : Rule α) (next : α -> Rule β) : Rule β := fun tokens value =>
  ∃ front back between, tokens = front ++ back ∧ first front between ∧ next between back value

/-- A single token. -/
def Rule.exactly (token : Token) : Rule α := fun tokens _ => tokens = [token]

/-- No token at all. -/
def Rule.nothing : Rule α := fun tokens _ => tokens = []

theorem Reads.mono {parser : Parser α} {rule wider : Rule α} (reads : Reads parser rule)
    (widens : forall tokens value, rule tokens value -> wider tokens value) :
    Reads parser wider := by
  intro text value rest succeeds
  rcases reads text value rest succeeds with ⟨consumed, tokens, split, padded, phrase⟩
  exact ⟨consumed, tokens, split, padded, widens tokens value phrase⟩

theorem Reads.bind {parser : Parser α} {next : α -> Parser β} {first : Rule α}
    {second : α -> Rule β} (reads : Reads parser first)
    (readsNext : forall value, Reads (next value) (second value)) :
    Reads (parser.bind next) (first.bind second) := by
  intro text result rest succeeds
  rcases bind_eq_success succeeds with ⟨value, between, found, succeedsNext⟩
  rcases reads text value between found with ⟨front, frontTokens, split, padded, phrase⟩
  rcases readsNext value between result rest succeedsNext with
    ⟨back, backTokens, splitNext, paddedNext, phraseNext⟩
  refine ⟨front ++ back, frontTokens ++ backTokens, ?_, padded.append paddedNext,
    frontTokens, backTokens, value, rfl, phrase, phraseNext⟩
  rw [split, splitNext, List.append_assoc]

theorem Reads.pure (value : α) :
    Reads (Parser.pure value) fun tokens found => tokens = [] ∧ found = value := by
  intro text found rest succeeds
  cases succeeds
  exact ⟨[], [], rfl, .nil allBlank_nil, rfl, rfl⟩

theorem Reads.map {parser : Parser α} {rule : Rule α} (reads : Reads parser rule)
    (change : α -> β) :
    Reads (parser.map change) fun tokens result =>
      ∃ value, rule tokens value ∧ result = change value := by
  intro text result rest succeeds
  rcases map_eq_success succeeds with ⟨value, found, changed⟩
  rcases reads text value rest found with ⟨consumed, tokens, split, padded, phrase⟩
  exact ⟨consumed, tokens, split, padded, value, phrase, changed⟩

theorem Reads.orElse {parser alternative : Parser α} {rule : Rule α}
    (reads : Reads parser rule) (readsAlternative : Reads alternative rule) :
    Reads (parser.orElse alternative) rule := by
  intro text value rest succeeds
  rcases orElse_eq_success succeeds with found | found
  · exact reads text value rest found
  · exact readsAlternative text value rest found

theorem Reads.skipLeft {parser : Parser α} {next : Parser β} {first : Rule α} {second : Rule β}
    (reads : Reads parser first) (readsNext : Reads next second) :
    Reads (parser.skipLeft next) (first.bind fun _ => second) :=
  reads.bind fun _ => readsNext

theorem Reads.skipRight {parser : Parser α} {next : Parser β} {first : Rule α} {token : Token}
    (reads : Reads parser first) (readsNext : Reads next (.exactly token)) :
    Reads (parser.skipRight next) fun tokens value =>
      ∃ front, tokens = front ++ [token] ∧ first front value := by
  refine (reads.bind fun value => readsNext.map fun _ => value).mono ?_
  rintro tokens result ⟨front, back, value, rfl, phrase, _, rfl, rfl⟩
  exact ⟨front, rfl, phrase⟩

theorem Reads.between {parser : Parser α} {left : Parser β} {right : Parser γ} {rule : Rule α}
    {opening closing : Token} (reads : Reads parser rule)
    (readsLeft : Reads left (.exactly opening)) (readsRight : Reads right (.exactly closing)) :
    Reads (parser.between left right) fun tokens value =>
      ∃ inside, tokens = opening :: inside ++ [closing] ∧ rule inside value := by
  refine (readsLeft.skipLeft (reads.skipRight readsRight)).mono ?_
  rintro tokens value ⟨front, back, _, rfl, rfl, inside, rfl, phrase⟩
  exact ⟨inside, rfl, phrase⟩

theorem reads_blanks : Reads blank.many .nothing := by
  intro text value rest succeeds
  rcases many_satisfy_eq_success succeeds with ⟨split, areBlank⟩
  exact ⟨value, [], split, .nil areBlank, rfl⟩

theorem Reads.token {parser : Parser α} {rule : Rule α} (reads : Reads parser rule) :
    Reads (Parser.token parser) rule := by
  have readsRight : Reads (parser.skipRight blank.many) rule := by
    refine (reads.bind fun value => reads_blanks.map fun _ => value).mono ?_
    rintro tokens result ⟨front, back, value, rfl, phrase, _, rfl, rfl⟩
    rwa [List.append_nil]
  refine (reads_blanks.skipLeft readsRight).mono ?_
  rintro tokens value ⟨front, back, _, rfl, rfl, phrase⟩
  exact phrase

/-- Several phrases with nothing in between. -/
inductive Repeated (rule : Rule α) : Rule (List α) where
  | nil : Repeated rule [] []
  | cons {tokens rest : List Token} {value : α} {values : List α} (first : rule tokens value)
      (others : Repeated rule rest values) : Repeated rule (tokens ++ rest) (value :: values)

theorem Reads.manyUpTo {parser : Parser α} {rule : Rule α} (reads : Reads parser rule)
    (bound : Nat) : Reads (parser.manyUpTo bound) (Repeated rule) := by
  induction bound with
  | zero =>
      intro text values rest succeeds
      cases succeeds
      exact ⟨[], [], rfl, .nil allBlank_nil, .nil⟩
  | succ bound inductionHypothesis =>
      intro text values rest succeeds
      rw [Parser.manyUpTo] at succeeds
      split at succeeds
      · cases succeeds
        exact ⟨[], [], rfl, .nil allBlank_nil, .nil⟩
      · cases succeeds
      · next value between found =>
        rcases reads text value between found with ⟨front, tokens, split, padded, phrase⟩
        split at succeeds
        · cases succeeds
          have one := Repeated.cons phrase .nil
          rw [List.append_nil] at one
          exact ⟨front, tokens, split, padded, one⟩
        · rcases map_eq_success succeeds with ⟨others, foundOthers, rfl⟩
          rcases inductionHypothesis between others rest foundOthers with
            ⟨back, backTokens, splitBack, paddedBack, phrases⟩
          refine ⟨front ++ back, tokens ++ backTokens, ?_, padded.append paddedBack,
            .cons phrase phrases⟩
          rw [split, splitBack, List.append_assoc]

theorem Reads.many {parser : Parser α} {rule : Rule α} (reads : Reads parser rule) :
    Reads parser.many (Repeated rule) :=
  fun text => reads.manyUpTo (text.length + 1) text

/-- Phrases behind separators, and one in front of them, are a list. -/
theorem Repeated.listed {rule : Rule α} {separator : Mark} {rest : List Token} {values : List α}
    (repeated : Repeated (Rule.bind (.exactly (.mark separator)) fun _ : β => rule) rest values)
    {tokens : List Token} {value : α} (first : rule tokens value) :
    Listed rule separator (tokens ++ rest) (value :: values) := by
  induction repeated generalizing tokens value with
  | nil =>
      rw [List.append_nil]
      exact .one first
  | cons next others inductionHypothesis =>
      rcases next with ⟨front, back, _, rfl, rfl, phrase⟩
      exact .more first (inductionHypothesis phrase)

theorem Reads.delimitedBy {parser : Parser α} {delimiter : Parser β} {rule : Rule α}
    {separator : Mark} (reads : Reads parser rule)
    (readsDelimiter : Reads delimiter (.exactly (.mark separator))) :
    Reads (parser.delimitedBy delimiter) (Listed rule separator) := by
  refine (reads.bind fun first =>
    (readsDelimiter.skipLeft reads).many.map (first :: ·)).mono ?_
  rintro tokens result ⟨front, back, value, rfl, phrase, values, repeated, rfl⟩
  exact repeated.listed phrase

end Laws

/-!
## Tokens
-/

theorem reads_symbol (token : Token) : Reads (symbol token.text) (.exactly token) := by
  intro text value rest succeeds
  exact ⟨token.text, [token], symbol_eq_success succeeds, .token token, rfl⟩

theorem reads_keyword (token : Token) : Reads (keyword token.text) (.exactly token) :=
  (reads_symbol token).token

theorem reads_mark {symbol : Mark} {character : Char} (spelled : symbol.text = [character]) :
    Reads (mark character) (.exactly (.mark symbol)) := by
  refine Reads.token ?_
  intro text value rest succeeds
  exact ⟨[character], [.mark symbol], char_eq_success succeeds,
    spelled ▸ Padded.token (.mark symbol), rfl⟩

/-- A word with its letters. -/
def IsWord : Rule Text := fun tokens letters =>
  ∃ spelled : Word, tokens = [.word spelled] ∧ letters = spelled.letters

theorem reads_word : Reads word IsWord := by
  refine Reads.token ?_
  intro text letters rest succeeds
  rw [letter, atLeastOne_satisfy] at succeeds
  split at succeeds
  · cases succeeds
  · next nonempty =>
    cases succeeds
    refine ⟨text.takeWhile Text.isLetter,
      [.word ⟨text.takeWhile Text.isLetter, nonempty, fun _ => List.mem_takeWhile_imp⟩],
      List.takeWhile_append_dropWhile.symm, .token _, _, rfl, rfl⟩

/-- A name. -/
def IsName : Rule Node := fun tokens node =>
  ∃ spelled : Word, tokens = [.word spelled] ∧ node = .name spelled.letters

theorem reads_name : Reads name IsName := by
  refine (reads_word.map Node.name).mono ?_
  rintro tokens node ⟨letters, ⟨spelled, rfl, rfl⟩, rfl⟩
  exact ⟨spelled, rfl, rfl⟩

/-- A string literal. -/
def IsString : Rule Node := fun tokens node =>
  ∃ literal : Quoted, tokens = [.quoted literal] ∧ node = .string literal.content

theorem stringCharacter_eq : stringCharacter =
    satisfy fun character =>
      Text.isLetter character || Text.isDigit character || Text.isBlank character := by
  rw [stringCharacter, letter, digit, blank, satisfy_orElse, satisfy_orElse]

/-- A quoted text is closed by the first quotation mark, which cannot be part of it. -/
theorem quoted_eq_success_iff {text content rest : Text} :
    stringCharacter.many.between (char '"') (char '"') text = .success content rest ↔
      text = '"' :: (content ++ '"' :: rest) ∧
      forall character, character ∈ content -> Text.isLetter character = true ∨
        Text.isDigit character = true ∨ Text.isBlank character = true := by
  rw [stringCharacter_eq]
  constructor
  · intro succeeds
    rcases bind_eq_success succeeds with ⟨_, inside, opens, succeedsInside⟩
    rcases bind_eq_success succeedsInside with ⟨found, behind, characters, succeedsBehind⟩
    rcases map_eq_success succeedsBehind with ⟨_, closes, rfl⟩
    rcases many_satisfy_eq_success characters with ⟨split, allowed⟩
    simp only [Bool.or_eq_true, or_assoc] at allowed
    rw [char_eq_success opens, split, char_eq_success closes]
    exact ⟨rfl, allowed⟩
  · rintro ⟨rfl, allowed⟩
    have quote (more : Text) : char '"' ('"' :: more) = .success '"' more :=
      satisfy_cons_of_true (by decide) more
    have characters : (satisfy fun character =>
        Text.isLetter character || Text.isDigit character || Text.isBlank character).many
          (content ++ '"' :: rest) = .success content ('"' :: rest) :=
      many_satisfy_append (by simpa only [Bool.or_eq_true, or_assoc] using allowed)
        (List.takeWhile_cons_of_neg (by decide))
    rw [between, skipLeft, bind_of_success (quote _), skipRight, bind_of_success characters]
    exact map_of_success _ (quote rest)

theorem reads_string : Reads string IsString := by
  have literal : Reads (stringCharacter.many.between (char '"') (char '"')) fun tokens content =>
      ∃ literal : Quoted, tokens = [.quoted literal] ∧ content = literal.content := by
    intro text content rest succeeds
    rcases quoted_eq_success_iff.mp succeeds with ⟨rfl, allowed⟩
    refine ⟨_, [.quoted ⟨content, allowed⟩], ?_, .token _, _, rfl, rfl⟩
    simp only [Token.text, List.cons_append, List.append_assoc, List.nil_append]
  refine (literal.token.map Node.string).mono ?_
  rintro tokens node ⟨content, ⟨literal, rfl, rfl⟩, rfl⟩
  exact ⟨literal, rfl, rfl⟩

/-- Only decimal digits have place values. -/
theorem decimal_of_placeValues? {digits : Text} {values : List Nat}
    (found : placeValues? digits = some values) :
    forall character, character ∈ digits -> (Text.decimalValue? character).isSome = true := by
  induction digits generalizing values with
  | nil => intro character member; cases member
  | cons digit digits inductionHypothesis =>
      rw [placeValues?, List.mapM_cons] at found
      cases isValue : Text.decimalValue? digit with
      | none => rw [isValue] at found; cases found
      | some value =>
          cases areValues : placeValues? digits with
          | none =>
              rw [placeValues?] at areValues
              rw [isValue, areValues] at found
              cases found
          | some others =>
              intro character member
              rcases List.mem_cons.mp member with rfl | inRest
              · rw [isValue]; rfl
              · exact inductionHypothesis areValues character inRest

/-- A numeral of decimal digits is spelled as a decimal. -/
def Numeral.spelling (numeral : Numeral) : Spelling where
  negative := numeral.negative
  whole := numeral.whole
  fraction := numeral.fraction
  nonempty := numeral.nonempty
  wholeDigits := fun character member =>
    Text.isDigit_of_decimal (numeral.wholeDecimal character member)
  fractionDigits := fun character member =>
    Text.isDigit_of_decimal (numeral.fractionDecimal character member)

theorem Numeral.text_eq (numeral : Numeral) :
    (Token.numeral numeral).text = numeral.spelling.text :=
  List.append_assoc _ _ _

theorem convertDecimal_numeral (numeral : Numeral) :
    ∃ value, convertDecimal numeral.sign numeral.whole numeral.fraction = .ok value ∧
      numeral.value = value.convert .single := by
  have same : (numeral.sign == ['-']) = numeral.negative := by
    rw [Numeral.sign]
    cases numeral.negative <;> rfl
  rcases Option.isSome_iff_exists.mp numeral.readDecimal?_isSome with ⟨value, reading⟩
  refine ⟨value, ?_, ?_⟩
  · simp only [convertDecimal, same, reading]
  · simp only [Numeral.value, reading, Option.get_some]

/-- A spelling whose digits have place values is that of a numeral. -/
theorem exists_numeral {spelling : Spelling} {value : Double} (denotes : spelling.Denotes value) :
    ∃ numeral : Numeral, numeral.spelling = spelling ∧ numeral.value = value.convert .single := by
  have converted := Spelling.denotes_iff.mp denotes
  rcases denotes with ⟨wholeValues, fractionValues, areWhole, areFraction, _⟩
  let numeral : Numeral := ⟨spelling.negative, spelling.whole, spelling.fraction,
    spelling.nonempty, decimal_of_placeValues? areWhole, decimal_of_placeValues? areFraction⟩
  rcases convertDecimal_numeral numeral with ⟨found, alsoConverted, isValue⟩
  cases converted.symm.trans alsoConverted
  exact ⟨numeral, rfl, isValue⟩

/-- A number. -/
def IsNumber : Rule Node := fun tokens node =>
  ∃ numeral : Numeral, tokens = [.numeral numeral] ∧ node = .number numeral.value

theorem reads_number : Reads number IsNumber := by
  refine Reads.token ?_
  intro text node rest succeeds
  rcases map_eq_success succeeds with ⟨value, converts, rfl⟩
  rcases decimal_eq_success_iff.mp converts with ⟨spelling, rfl, _, denotes⟩
  rcases exists_numeral denotes with ⟨numeral, rfl, isValue⟩
  refine ⟨(Token.numeral numeral).text, [.numeral numeral], ?_, .token _, numeral, rfl, ?_⟩
  · rw [numeral.text_eq]
  · rw [isValue]

/-!
## Expressions
-/

section Rules

variable {inner : Parser Node} {rule : Rule Node}

theorem Reads.parenthesized {α : Type} {parser : Parser α} {rule : Rule α}
    (reads : Reads parser rule) :
    Reads (Grammar.parenthesized parser) fun tokens value =>
      ∃ inside, tokens = .mark .openRound :: inside ++ [.mark .closeRound] ∧ rule inside value :=
  reads.between (reads_mark rfl) (reads_mark rfl)

theorem Reads.braced {α : Type} {parser : Parser α} {rule : Rule α} (reads : Reads parser rule) :
    Reads (Grammar.braced parser) fun tokens value =>
      ∃ inside, tokens = .mark .openBrace :: inside ++ [.mark .closeBrace] ∧ rule inside value :=
  reads.between (reads_mark rfl) (reads_mark rfl)

theorem Reads.range (reads : Reads inner rule) : Reads (Grammar.range inner) (Atom rule) := by
  have bounds := ((reads.skipRight (reads_keyword (.mark .dots))).bind fun start =>
    reads.bind fun stop => Reads.pure (Node.range start stop)).braced
  refine bounds.mono ?_
  rintro tokens node ⟨inside, rfl, front, back, start, rfl, ⟨starts, rfl, first⟩, stops, nothing,
    stop, rfl, last, rfl, rfl⟩
  have range := Atom.range first last
  simpa only [List.cons_append, List.append_assoc, List.append_nil, List.nil_append] using range

theorem Reads.sequence (reads : Reads inner rule) :
    Reads (Grammar.sequence inner) (Atom rule) := by
  refine Reads.orElse ?_ ?_
  · have elements := ((reads.delimitedBy (reads_keyword (.mark .comma))).map Node.sequence).braced
    refine elements.mono ?_
    rintro tokens node ⟨inside, rfl, elements, listed, rfl⟩
    exact .sequence listed
  · have opens : Reads (mark '\x7b') (.exactly (.mark .openBrace)) := reads_mark rfl
    have closes : Reads (mark '\x7d') (.exactly (.mark .closeBrace)) := reads_mark rfl
    refine ((opens.skipLeft closes).map fun _ => Node.sequence []).mono ?_
    rintro tokens node ⟨_, ⟨front, back, _, rfl, rfl, rfl⟩, rfl⟩
    exact .empty

theorem Reads.mapper (reads : Reads inner rule) :
    Reads (Grammar.mapper inner) fun tokens node => ∃ (parameter : Word) (bodies : List Token)
      (body : Node), tokens = .word parameter :: .mark .arrow :: bodies ∧ rule bodies body ∧
        node = .mapper (.name parameter.letters) body := by
  have function := ((reads_name.skipRight (reads_keyword (.mark .arrow))).bind fun parameter =>
    reads.map fun body => Node.mapper parameter body).token
  refine function.mono ?_
  rintro tokens node ⟨front, bodies, _, rfl, ⟨names, rfl, parameter, rfl, rfl⟩, body, gives, rfl⟩
  exact ⟨parameter, bodies, body, rfl, gives, rfl⟩

theorem Reads.reducer (reads : Reads inner rule) :
    Reads (Grammar.reducer inner) fun tokens node => ∃ (first second : Word)
      (bodies : List Token) (body : Node),
        tokens = .word first :: .word second :: .mark .arrow :: bodies ∧ rule bodies body ∧
        node = .reducer (.name first.letters) (.name second.letters) body := by
  have function := (reads_name.bind fun first =>
    (reads_name.skipRight (reads_keyword (.mark .arrow))).bind fun second =>
      reads.map fun body => Node.reducer first second body).token
  refine function.mono ?_
  rintro tokens node ⟨front, back, _, rfl, ⟨first, rfl, rfl⟩, middle, bodies, _, rfl,
    ⟨names, rfl, second, rfl, rfl⟩, body, gives, rfl⟩
  exact ⟨first, second, bodies, body, rfl, gives, rfl⟩

theorem Reads.mapping (reads : Reads inner rule) : Reads (Grammar.map inner) (Atom rule) := by
  have inside := ((reads.skipRight (reads_keyword (.mark .comma))).bind fun source =>
    reads.mapper.map fun function => Node.map source function).parenthesized
  refine ((reads_keyword (.word .map)).skipLeft inside).mono ?_
  rintro tokens node ⟨front, back, _, rfl, rfl, inside, rfl, before, after, source, rfl,
    ⟨sources, rfl, takes⟩, _, ⟨parameter, bodies, body, rfl, gives, rfl⟩, rfl⟩
  have mapped := Atom.map parameter takes gives
  simpa only [List.cons_append, List.append_assoc, List.nil_append] using mapped

theorem Reads.reduction (reads : Reads inner rule) :
    Reads (Grammar.reduce inner) (Atom rule) := by
  have inside := ((reads.skipRight (reads_keyword (.mark .comma))).bind fun source =>
    (reads.skipRight (reads_keyword (.mark .comma))).bind fun primer =>
      reads.reducer.map fun function => Node.reduce source primer function).parenthesized
  refine ((reads_keyword (.word .reduce)).skipLeft inside).mono ?_
  rintro tokens node ⟨front, back, _, rfl, rfl, inside, rfl, before, after, source, rfl,
    ⟨sources, rfl, takes⟩, between, behind, primer, rfl, ⟨primers, rfl, starts⟩, _,
    ⟨first, second, bodies, body, rfl, gives, rfl⟩, rfl⟩
  have reduced := Atom.reduce first second takes starts gives
  simpa only [List.cons_append, List.append_assoc, List.nil_append] using reduced

theorem Reads.atom (reads : Reads inner rule) : Reads (Grammar.atom inner) (Atom rule) := by
  have brackets : Reads (Grammar.parenthesized inner) (Atom rule) := by
    refine reads.parenthesized.mono ?_
    rintro tokens node ⟨inside, rfl, phrase⟩
    exact .parenthesized phrase
  have numbers : Reads number (Atom rule) := by
    refine reads_number.mono ?_
    rintro tokens node ⟨numeral, rfl, rfl⟩
    exact .number numeral
  have names : Reads name (Atom rule) := by
    refine reads_name.mono ?_
    rintro tokens node ⟨spelled, rfl, rfl⟩
    exact .name spelled
  exact ((((((brackets.orElse reads.range).orElse reads.sequence).orElse numbers).orElse
    reads.reduction).orElse reads.mapping).orElse names).token

theorem Reads.chain (operator : Operator) (reads : Reads inner rule) :
    Reads (Grammar.chain operator inner) (Chain operator rule) := by
  have operands := (reads.delimitedBy (reads_keyword (.mark (.operator operator)))).map
    (Node.operation operator)
  refine operands.mono ?_
  rintro tokens node ⟨operands, listed, rfl⟩
  exact .operands listed

theorem Reads.sums (reads : Reads inner rule) : Reads (Grammar.sums inner) (Sums rule) :=
  ((((reads.atom.chain .power).chain .over).chain .times).chain .minus).chain .plus

end Rules

/-- The induction is on the bound: without room for an expression nothing is
read. -/
theorem reads_expression (depth : Nat) : Reads (expression depth) (Expression depth) := by
  induction depth with
  | zero => intro text node rest succeeds; cases succeeds
  | succ depth inductionHypothesis => exact inductionHypothesis.sums

/-!
## Statements and programs
-/

/-- A statement that was normalized. -/
def Normalized (depth : Nat) : Rule Node := fun tokens node =>
  ∃ raw, Statement depth tokens raw ∧ raw.normalize = .ok node

theorem reads_rawStatement (depth : Nat) :
    Reads (((declaration depth).orElse (output depth)).orElse printing) (Statement depth) := by
  have expressions := reads_expression depth
  have declarations : Reads (declaration depth) (Statement depth) := by
    refine ((reads_keyword (.word .var)).skipLeft
      ((reads_name.skipRight (reads_keyword (.mark .equals))).bind fun declared =>
        expressions.map fun value => Node.declare declared value)).mono ?_
    rintro tokens node ⟨front, back, _, rfl, rfl, before, tokens, _, rfl,
      ⟨names, rfl, declared, rfl, rfl⟩, node, bound, rfl⟩
    exact .declaration declared bound
  have outputs : Reads (output depth) (Statement depth) := by
    refine ((reads_keyword (.word .out)).skipLeft (expressions.map Node.out)).mono ?_
    rintro tokens node ⟨front, tokens, _, rfl, rfl, node, shown, rfl⟩
    exact .output shown
  have printings : Reads printing (Statement depth) := by
    refine ((reads_keyword (.word .print)).skipLeft (reads_string.map Node.print)).mono ?_
    rintro tokens node ⟨front, tokens, _, rfl, rfl, _, ⟨literal, rfl, rfl⟩, rfl⟩
    exact .printing literal
  exact (declarations.orElse outputs).orElse printings

theorem reads_statement (depth : Nat) : Reads (statement depth) (Normalized depth) := by
  have normalized (raw : Node) : Reads (ofExcept raw.normalize) fun tokens node =>
      tokens = [] ∧ raw.normalize = .ok node := by
    intro text node rest succeeds
    rcases ofExcept_eq_success succeeds with ⟨converted, rfl⟩
    exact ⟨[], [], rfl, .nil allBlank_nil, rfl, converted⟩
  refine ((reads_rawStatement depth).bind normalized).mono ?_
  rintro tokens node ⟨front, back, raw, rfl, phrase, rfl, converted⟩
  rw [List.append_nil]
  exact ⟨raw, phrase, converted⟩

theorem reads_lineEnds : Reads (char '\n').many .nothing := by
  intro text value rest succeeds
  rcases many_satisfy_eq_success succeeds with ⟨split, areEnds⟩
  refine ⟨value, [], split, .nil ?_, rfl⟩
  intro character member
  rw [beq_iff_eq.mp (areEnds character member)]
  decide

/-- Programs whose statements were normalized one by one. -/
def NormalizedProgram (depth : Nat) : Rule (List Node) := fun tokens nodes =>
  ∃ raws, Program depth tokens raws ∧ Node.normalizeAll raws = .ok nodes

theorem reads_program (depth : Nat) :
    Reads ((statement depth).delimitedBy (char '\n').many) (NormalizedProgram depth) := by
  have collected : forall {rest : List Token} {nodes : List Node},
      Repeated (Rule.bind (.nothing : Rule Text) fun _ => Normalized depth) rest nodes ->
      forall {tokens : List Token} {node : Node}, Normalized depth tokens node ->
        NormalizedProgram depth (tokens ++ rest) (node :: nodes) := by
    intro rest nodes repeated
    induction repeated with
    | nil =>
        rintro tokens node ⟨raw, phrase, normal⟩
        rw [List.append_nil]
        exact ⟨[raw], .one phrase, Node.normalizeAll_cons normal rfl⟩
    | cons next others inductionHypothesis =>
        rintro tokens node ⟨raw, phrase, normal⟩
        rcases next with ⟨front, back, _, rfl, rfl, nextPhrase⟩
        rcases inductionHypothesis nextPhrase with ⟨raws, phrases, normals⟩
        exact ⟨raw :: raws, .more phrase phrases, Node.normalizeAll_cons normal normals⟩
  refine ((reads_statement depth).bind fun first =>
    (reads_lineEnds.skipLeft (reads_statement depth)).many.map (first :: ·)).mono ?_
  rintro tokens result ⟨front, back, node, rfl, phrase, nodes, repeated, rfl⟩
  exact collected repeated phrase

theorem read_eq_success {α : Type} {parser : Parser α} {text : Text} {value : α}
    (succeeds : read parser text = .success value) :
    ∃ rest, parser text = .success value rest := by
  unfold read at succeeds
  split at succeeds
  · next rest found => cases succeeds; exact ⟨rest, found⟩
  · cases succeeds
  · cases succeeds

/-- What is read to the end leaves nothing over. -/
theorem read_to_end {α : Type} {parser : Parser α} {text : Text} {value : α}
    (succeeds : read (parser.skipRight endOfText) text = .success value) :
    parser text = .success value [] := by
  rcases read_eq_success succeeds with ⟨rest, found⟩
  rcases bind_eq_success found with ⟨before, behind, parsed, ends⟩
  rcases map_eq_success ends with ⟨_, atEnd, rfl⟩
  rcases endOfText_eq_success atEnd with ⟨rfl, _⟩
  exact parsed

/-- What is read to the end is a phrase as a whole. -/
theorem phrase_of_read {α : Type} {parser : Parser α} {rule : Rule α} (reads : Reads parser rule)
    {text : Text} {value : α} (succeeds : read (parser.skipRight endOfText) text = .success value) :
    ∃ tokens, Padded tokens text ∧ rule tokens value := by
  rcases reads text value [] (read_to_end succeeds) with ⟨consumed, tokens, split, padded, phrase⟩
  rw [List.append_nil] at split
  exact ⟨tokens, split ▸ padded, phrase⟩

/-- Every text that is read as a program is one: the whole text is made of the
tokens of one or more statements and of blanks between and around them, and what
is read is the normal form of the trees of these statements.  A text that is read
as a single statement is a single statement in the same sense. -/
theorem parse_sound (depth : Nat) (text : Text) :
    (forall nodes, parseProgram depth text = .success nodes ->
      ∃ tokens raws, Padded tokens text ∧ Program depth tokens raws ∧
        Node.normalizeAll raws = .ok nodes) ∧
    (forall node, parseStatement depth text = .success node ->
      ∃ tokens raw, Padded tokens text ∧ Statement depth tokens raw ∧
        raw.normalize = .ok node) := by
  constructor
  · intro nodes succeeds
    rcases phrase_of_read (reads_program depth) succeeds with ⟨tokens, padded, raws, phrase⟩
    exact ⟨tokens, raws, padded, phrase⟩
  · intro node succeeds
    rcases phrase_of_read (reads_statement depth) succeeds with ⟨tokens, padded, raw, phrase⟩
    exact ⟨tokens, raw, padded, phrase⟩

/-- The text `out 1-2*x` is read both as a program and as a statement. -/
theorem parse_sound_difference :
    (∃ nodes, parseProgram 3 "out 1-2*x".toList = .success nodes ∧
      ∃ tokens raws, Padded tokens "out 1-2*x".toList ∧ Program 3 tokens raws ∧
        Node.normalizeAll raws = .ok nodes) ∧
    (∃ node, parseStatement 3 "out 1-2*x".toList = .success node ∧
      ∃ tokens raw, Padded tokens "out 1-2*x".toList ∧ Statement 3 tokens raw ∧
        raw.normalize = .ok node) := by
  have isProgram : (parseProgram 3 "out 1-2*x".toList).isSuccess = true := by decide +kernel
  have isStatement : (parseStatement 3 "out 1-2*x".toList).isSuccess = true := by decide +kernel
  constructor
  · cases found : parseProgram 3 "out 1-2*x".toList with
    | success nodes => exact ⟨nodes, rfl, (parse_sound 3 _).1 nodes found⟩
    | failure error => rw [found] at isProgram; cases isProgram
    | fault fault => rw [found] at isProgram; cases isProgram
  · cases found : parseStatement 3 "out 1-2*x".toList with
    | success node => exact ⟨node, rfl, (parse_sound 3 _).2 node found⟩
    | failure error => rw [found] at isStatement; cases isStatement
    | fault fault => rw [found] at isStatement; cases isStatement

end Grammar
end SequenceCalculator
