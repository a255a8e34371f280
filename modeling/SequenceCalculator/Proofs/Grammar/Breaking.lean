import SequenceCalculator.Proofs.Grammar.Completeness
import SequenceCalculator.Proofs.Grammar.Illegible
import SequenceCalculator.Proofs.Grammar.Tokens

namespace SequenceCalculator
namespace Grammar

/-!
# Where reading breaks off

Reading ends with a value, with a failure or with a fault.  There are two reasons
for a fault.  One is that expressions are nested deeper than the bound allows;
every level takes at least one character, so this needs a text at least as long
as the bound.  The other is an illegible numeral.  It stands behind tokens that
are the front of a phrase, in a place where a legible numeral would continue it:
digits in a string literal or behind a complete program never break anything.

As for `Reads` there is one law for every combinator.
-/

open Number SequenceCalculator.Parser

section Laws

variable {α β γ : Type}

/-- The tokens in front of a place where any numeral may stand in a phrase. -/
def Awaits (rule : Rule α) (tokens : List Token) : Prop :=
  forall numeral, ∃ behind value, rule (tokens ++ .numeral numeral :: behind) value

theorem awaits_of_phrase {rule : Rule α} {tokens : List Token}
    (completes : forall numeral, ∃ phrase behind value, rule phrase value ∧
      phrase = tokens ++ .numeral numeral :: behind) : Awaits rule tokens := by
  intro numeral
  rcases completes numeral with ⟨phrase, behind, value, isPhrase, rfl⟩
  exact ⟨behind, value, isPhrase⟩

/-- A numeral in a text, behind tokens of a given kind and not continued by
another digit. -/
def StandsBehind (ahead : List Token -> Prop) (numeral : Illegible) (text : Text) : Prop :=
  ∃ consumed tokens rest, text = consumed ++ (numeral.text ++ rest) ∧ Padded tokens consumed ∧
    ahead tokens ∧ rest.takeWhile Text.isDigit = []

/-- A fault for want of room, in a text that is at least as long as the room is
great, or at an illegible numeral. -/
def Broken (room : Nat) (ahead : List Token -> Prop) (text : Text) (cause : Fault) : Prop :=
  cause = .tooDeep ∧ room ≤ text.length ∨
    ∃ numeral, StandsBehind ahead numeral text ∧ cause = .notDecimal numeral.text

/-- A parser has no other faults. -/
def Breaks (room : Nat) (parser : Parser α) (ahead : List Token -> Prop) : Prop :=
  forall text cause, parser text = .fault cause -> Broken room ahead text cause

variable {room : Nat} {parser : Parser α} {ahead : List Token -> Prop}

theorem Broken.mono {less : Nat} {wider : List Token -> Prop} {text : Text} {cause : Fault}
    (broken : Broken room ahead text cause) (smaller : less ≤ room)
    (widens : forall tokens, ahead tokens -> wider tokens) : Broken less wider text cause := by
  rcases broken with ⟨tooDeep, long⟩ | ⟨numeral, stands, named⟩
  · exact .inl ⟨tooDeep, smaller.trans long⟩
  · rcases stands with ⟨consumed, tokens, rest, split, padded, isAhead, stops⟩
    exact .inr ⟨numeral, ⟨consumed, tokens, rest, split, padded, widens tokens isAhead, stops⟩,
      named⟩

/-- What breaks off behind tokens in the rest of a text breaks off behind more of
them in the whole text, where there is room for as much more as lies in front. -/
theorem Broken.append {front text : Text} {tokens : List Token} {cause : Fault}
    (broken : Broken room ahead text cause) (padded : Padded tokens front) :
    Broken (room + front.length) (fun all => ∃ others, all = tokens ++ others ∧ ahead others)
      (front ++ text) cause := by
  rcases broken with ⟨tooDeep, long⟩ | ⟨numeral, stands, named⟩
  · refine .inl ⟨tooDeep, ?_⟩
    rw [List.length_append]
    omega
  · rcases stands with ⟨consumed, others, rest, rfl, alsoPadded, isAhead, stops⟩
    refine .inr ⟨numeral, ⟨front ++ consumed, tokens ++ others, rest, ?_,
      padded.append alsoPadded, ⟨others, rfl, isAhead⟩, stops⟩, named⟩
    rw [List.append_assoc]

theorem Breaks.mono {wider : List Token -> Prop} (breaks : Breaks room parser ahead)
    (widens : forall tokens, ahead tokens -> wider tokens) : Breaks room parser wider := by
  intro text cause fault
  exact (breaks text cause fault).mono (Nat.le_refl room) widens

theorem Breaks.less {less : Nat} (breaks : Breaks room parser ahead) (smaller : less ≤ room) :
    Breaks less parser ahead := by
  intro text cause fault
  exact (breaks text cause fault).mono smaller fun _ isAhead => isAhead

theorem breaks_of_faultless (faultless : parser.Faultless) (room : Nat)
    (ahead : List Token -> Prop) : Breaks room parser ahead := by
  intro text cause fault
  exact absurd fault (faultless text cause)

/-- The second of two parsers breaks off behind a phrase of the first. -/
theorem Breaks.bind {next : α -> Parser β} {rule : Rule α} {behind : α -> List Token -> Prop}
    (breaks : Breaks room parser ahead) (reads : Reads parser rule)
    (breaksNext : forall tokens value, rule tokens value ->
      Breaks room (next value) (behind value)) :
    Breaks room (parser.bind next) fun tokens => ahead tokens ∨
      ∃ front back value, tokens = front ++ back ∧ rule front value ∧ behind value back := by
  intro text cause fault
  rcases bind_eq_fault fault with first | ⟨value, between, found, second⟩
  · exact (breaks.mono fun _ => .inl) text cause first
  · rcases reads text value between found with ⟨consumed, tokens, rfl, padded, phrase⟩
    have broken := (breaksNext tokens value phrase between cause second).append padded
    refine broken.mono (Nat.le_add_right room _) ?_
    rintro all ⟨others, rfl, isBehind⟩
    exact .inr ⟨tokens, others, value, rfl, phrase, isBehind⟩

theorem Breaks.map (breaks : Breaks room parser ahead) (change : α -> β) :
    Breaks room (parser.map change) ahead := by
  intro text cause fault
  exact breaks text cause (map_eq_fault fault)

theorem Breaks.orElse {alternative : Parser α} (breaks : Breaks room parser ahead)
    (alsoBreaks : Breaks room alternative ahead) :
    Breaks room (parser.orElse alternative) ahead := by
  intro text cause fault
  rcases orElse_eq_fault fault with first | second
  · exact breaks text cause first
  · exact alsoBreaks text cause second

/-- Behind a token there is room for one more. -/
theorem Breaks.skipLeft {left : Parser β} {token : Token} (breaks : Breaks room parser ahead)
    (faultless : left.Faultless) (reads : Reads left (.exactly token)) :
    Breaks (room + 1) (left.skipLeft parser) fun tokens =>
      ∃ others, tokens = token :: others ∧ ahead others := by
  intro text cause fault
  rcases bind_eq_fault fault with first | ⟨value, between, found, second⟩
  · exact absurd first (faultless text cause)
  · rcases reads text value between found with ⟨consumed, tokens, rfl, padded, rfl⟩
    have something := List.length_pos_iff.mpr padded.ne_nil
    exact ((breaks between cause second).append padded).mono (Nat.add_le_add_left something room)
      fun _ isAhead => isAhead

theorem Breaks.skipRight {right : Parser β} (breaks : Breaks room parser ahead)
    (faultless : right.Faultless) : Breaks room (parser.skipRight right) ahead := by
  intro text cause fault
  rcases bind_eq_fault fault with first | ⟨value, between, _, second⟩
  · exact breaks text cause first
  · exact absurd second ((faultless.map _) between cause)

theorem Breaks.between {left : Parser β} {right : Parser γ} {token : Token}
    (breaks : Breaks room parser ahead) (faultless : left.Faultless)
    (reads : Reads left (.exactly token)) (faultlessRight : right.Faultless) :
    Breaks (room + 1) (parser.between left right) fun tokens =>
      ∃ others, tokens = token :: others ∧ ahead others :=
  (breaks.skipRight faultlessRight).skipLeft faultless reads

theorem Breaks.token (breaks : Breaks room parser ahead) :
    Breaks room (Parser.token parser) ahead := by
  intro text cause fault
  have whole := List.takeWhile_append_dropWhile (p := Text.isBlank) (l := text)
  have blanks : Padded [] (text.takeWhile Text.isBlank) :=
    .nil fun _ => List.mem_takeWhile_imp
  rw [← whole]
  refine ((breaks _ cause (token_eq_fault fault)).append blanks).mono (Nat.le_add_right room _) ?_
  rintro all ⟨others, rfl, isAhead⟩
  exact isAhead

/-- The induction is on the bound; a repetition breaks off behind some of its
phrases. -/
theorem Breaks.manyUpTo {rule : Rule α} (breaks : Breaks room parser ahead)
    (reads : Reads parser rule) (bound : Nat) :
    Breaks room (parser.manyUpTo bound) fun tokens =>
      ∃ front back values, tokens = front ++ back ∧ Repeated rule front values ∧ ahead back := by
  induction bound with
  | zero => intro text cause fault; cases fault
  | succ bound inductionHypothesis =>
      intro text cause fault
      rw [Parser.manyUpTo] at fault
      split at fault
      · cases fault
      · next found =>
        cases fault
        refine (breaks.mono ?_) text cause found
        intro tokens isAhead
        exact ⟨[], tokens, [], rfl, .nil, isAhead⟩
      · next value between found =>
        split at fault
        · cases fault
        · rcases reads text value between found with ⟨consumed, tokens, rfl, padded, phrase⟩
          have broken := (inductionHypothesis between cause (map_eq_fault fault)).append padded
          refine broken.mono (Nat.le_add_right room _) ?_
          rintro all ⟨others, rfl, front, back, values, rfl, repeated, isAhead⟩
          exact ⟨tokens ++ front, back, value :: values, by rw [List.append_assoc],
            .cons phrase repeated, isAhead⟩

theorem Breaks.many {rule : Rule α} (breaks : Breaks room parser ahead)
    (reads : Reads parser rule) :
    Breaks room parser.many fun tokens =>
      ∃ front back values, tokens = front ++ back ∧ Repeated rule front values ∧ ahead back :=
  fun text => breaks.manyUpTo reads (text.length + 1) text

/-- A list of phrases goes on behind a separator. -/
theorem Listed.snoc {rule : Rule α} {separator : Mark} {front back : List Token}
    {values : List α} {value : α} (listed : Listed rule separator front values)
    (last : rule back value) :
    Listed rule separator (front ++ .mark separator :: back) (values ++ [value]) := by
  induction listed with
  | one first => exact .more first (.one last)
  | more first others inductionHypothesis =>
      rw [List.append_assoc, List.cons_append]
      exact .more first inductionHypothesis

theorem Breaks.delimitedBy {delimiter : Parser β} {rule : Rule α} {separator : Mark}
    (breaks : Breaks room parser (Awaits rule)) (reads : Reads parser rule)
    (faultless : delimiter.Faultless)
    (readsDelimiter : Reads delimiter (.exactly (.mark separator))) :
    Breaks room (parser.delimitedBy delimiter) (Awaits (Listed rule separator)) := by
  have others := ((breaks.skipLeft faultless readsDelimiter).less (Nat.le_succ room)).many
    (readsDelimiter.skipLeft reads)
  refine (breaks.bind reads fun _ first _ => others.map (first :: ·)).mono ?_
  rintro tokens (awaits | ⟨front, back, value, rfl, phrase, between, behind, values, rfl, repeated,
    last, rfl, awaits⟩)
  · intro numeral
    rcases awaits numeral with ⟨behind, value, phrase⟩
    exact ⟨behind, _, .one phrase⟩
  · refine awaits_of_phrase fun numeral => ?_
    rcases awaits numeral with ⟨behind, value, lastPhrase⟩
    exact ⟨_, behind, _, (repeated.listed phrase).snoc lastPhrase, by simp⟩

end Laws

/-!
## Expressions
-/

theorem faultless_mark (character : Char) : (mark character).Faultless :=
  (faultless_satisfy _).token

theorem faultless_name : name.Faultless :=
  (faultless_atLeastOne_satisfy _).token.map _

theorem breaks_number (room : Nat) : Breaks room number (fun tokens => tokens = []) := by
  refine Breaks.token (Breaks.map ?_ _)
  intro text cause fault
  rcases illegible_of_decimal fault with ⟨numeral, rest, split, stops, named⟩
  exact .inr ⟨numeral, ⟨[], [], rest, split, .nil allBlank_nil, rfl, stops⟩, named⟩

section Rules

variable {room : Nat} {inner : Parser Node} {rule : Rule Node}

theorem Breaks.parenthesized {α : Type} {parser : Parser α} {ahead : List Token -> Prop}
    (breaks : Breaks room parser ahead) :
    Breaks (room + 1) (Grammar.parenthesized parser) fun tokens =>
      ∃ others, tokens = .mark .openRound :: others ∧ ahead others :=
  breaks.between (faultless_mark _) (reads_mark rfl) (faultless_mark _)

theorem Breaks.braced {α : Type} {parser : Parser α} {ahead : List Token -> Prop}
    (breaks : Breaks room parser ahead) :
    Breaks (room + 1) (Grammar.braced parser) fun tokens =>
      ∃ others, tokens = .mark .openBrace :: others ∧ ahead others :=
  breaks.between (faultless_mark _) (reads_mark rfl) (faultless_mark _)

theorem Breaks.range (breaks : Breaks room inner (Awaits rule)) (reads : Reads inner rule) :
    Breaks (room + 1) (Grammar.range inner) (Awaits (Atom rule)) := by
  have bounds := ((breaks.skipRight (faultless_keyword _)).bind
    (reads.skipRight (reads_keyword (.mark .dots))) fun _ start _ =>
      breaks.bind reads fun _ stop _ =>
        breaks_of_faultless (faultless_pure (Node.range start stop)) room fun _ => False).braced
  refine bounds.mono ?_
  rintro tokens ⟨inside, rfl, awaits | ⟨front, back, start, rfl, ⟨starts, rfl, first⟩,
    awaits | ⟨_, _, _, _, _, impossible⟩⟩⟩
  · refine awaits_of_phrase fun numeral => ?_
    rcases awaits numeral with ⟨behind, node, phrase⟩
    exact ⟨_, behind ++ [.mark .closeBrace], _, Atom.sequence (.one phrase), by simp⟩
  · refine awaits_of_phrase fun numeral => ?_
    rcases awaits numeral with ⟨behind, node, phrase⟩
    exact ⟨_, behind ++ [.mark .closeBrace], _, Atom.range first phrase, by simp⟩
  · cases impossible

theorem Breaks.sequence (breaks : Breaks room inner (Awaits rule)) (reads : Reads inner rule) :
    Breaks (room + 1) (Grammar.sequence inner) (Awaits (Atom rule)) := by
  refine Breaks.orElse ?_ ?_
  · have elements := ((breaks.delimitedBy reads (faultless_keyword _)
      (reads_keyword (.mark .comma))).map Node.sequence).braced
    refine elements.mono ?_
    rintro tokens ⟨inside, rfl, awaits⟩
    refine awaits_of_phrase fun numeral => ?_
    rcases awaits numeral with ⟨behind, elements, listed⟩
    exact ⟨_, behind ++ [.mark .closeBrace], _, Atom.sequence listed, by simp⟩
  · exact breaks_of_faultless (((faultless_mark _).skipLeft (faultless_mark _)).map _) _ _

/-- A function awaits a numeral in its body. -/
theorem Breaks.mapper (breaks : Breaks room inner (Awaits rule)) :
    Breaks room (Grammar.mapper inner) fun tokens => ∃ (parameter : Word) (others : List Token),
      tokens = .word parameter :: .mark .arrow :: others ∧ Awaits rule others := by
  have named := breaks_of_faultless (faultless_name.skipRight (faultless_keyword "->".toList)) room
    fun _ => False
  have function := (named.bind (reads_name.skipRight (reads_keyword (.mark .arrow)))
    fun _ parameter _ => breaks.map fun body => Node.mapper parameter body).token
  refine function.mono ?_
  rintro tokens (impossible | ⟨front, others, _, rfl, ⟨names, rfl, parameter, rfl, rfl⟩, awaits⟩)
  · cases impossible
  · exact ⟨parameter, others, rfl, awaits⟩

theorem Breaks.reducer (breaks : Breaks room inner (Awaits rule)) :
    Breaks room (Grammar.reducer inner) fun tokens =>
      ∃ (first second : Word) (others : List Token),
        tokens = .word first :: .word second :: .mark .arrow :: others ∧ Awaits rule others := by
  have named := breaks_of_faultless (faultless_name.skipRight (faultless_keyword "->".toList)) room
    fun _ => False
  have function := ((breaks_of_faultless faultless_name room fun _ => False).bind reads_name
    fun _ first _ => named.bind (reads_name.skipRight (reads_keyword (.mark .arrow)))
      fun _ second _ => breaks.map fun body => Node.reducer first second body).token
  refine function.mono ?_
  rintro tokens (impossible | ⟨front, back, _, rfl, ⟨first, rfl, rfl⟩, impossible |
    ⟨middle, others, _, rfl, ⟨names, rfl, second, rfl, rfl⟩, awaits⟩⟩)
  · cases impossible
  · cases impossible
  · exact ⟨first, second, others, rfl, awaits⟩

theorem Breaks.mapping (breaks : Breaks room inner (Awaits rule)) (reads : Reads inner rule) :
    Breaks (room + 1) (Grammar.map inner) (Awaits (Atom rule)) := by
  have inside := ((breaks.skipRight (faultless_keyword _)).bind
    (reads.skipRight (reads_keyword (.mark .comma))) fun _ source _ =>
      breaks.mapper.map fun function => Node.map source function).parenthesized
  have whole := (inside.skipLeft (faultless_keyword _) (reads_keyword (.word .map))).less
    (Nat.le_succ _)
  refine whole.mono ?_
  rintro tokens ⟨_, rfl, inside, rfl, awaits | ⟨front, back, source, rfl, ⟨sources, rfl, takes⟩,
    parameter, others, rfl, awaits⟩⟩
  · refine awaits_of_phrase fun numeral => ?_
    rcases awaits numeral with ⟨behind, source, takes⟩
    exact ⟨_, behind ++ .mark .comma :: .word .var :: .mark .arrow ::
      (inside ++ .numeral numeral :: behind) ++ [.mark .closeRound], _,
      Atom.map .var takes takes, by simp⟩
  · refine awaits_of_phrase fun numeral => ?_
    rcases awaits numeral with ⟨behind, body, gives⟩
    exact ⟨_, behind ++ [.mark .closeRound], _, Atom.map parameter takes gives, by simp⟩

theorem Breaks.reduction (breaks : Breaks room inner (Awaits rule)) (reads : Reads inner rule) :
    Breaks (room + 1) (Grammar.reduce inner) (Awaits (Atom rule)) := by
  have inside := ((breaks.skipRight (faultless_keyword _)).bind
    (reads.skipRight (reads_keyword (.mark .comma))) fun _ source _ =>
      (breaks.skipRight (faultless_keyword _)).bind
        (reads.skipRight (reads_keyword (.mark .comma))) fun _ primer _ =>
          breaks.reducer.map fun function => Node.reduce source primer function).parenthesized
  have whole := (inside.skipLeft (faultless_keyword _) (reads_keyword (.word .reduce))).less
    (Nat.le_succ _)
  refine whole.mono ?_
  rintro tokens ⟨_, rfl, inside, rfl, awaits | ⟨front, back, source, rfl, ⟨sources, rfl, takes⟩,
    awaits | ⟨between, behind, primer, rfl, ⟨primers, rfl, starts⟩, first, second, others, rfl,
    awaits⟩⟩⟩
  · refine awaits_of_phrase fun numeral => ?_
    rcases awaits numeral with ⟨behind, source, takes⟩
    exact ⟨_, behind ++ .mark .comma :: (inside ++ .numeral numeral :: behind) ++ .mark .comma ::
      .word .var :: .word .var :: .mark .arrow :: (inside ++ .numeral numeral :: behind) ++
      [.mark .closeRound], _, Atom.reduce .var .var takes takes takes, by simp⟩
  · refine awaits_of_phrase fun numeral => ?_
    rcases awaits numeral with ⟨behind, primer, starts⟩
    exact ⟨_, behind ++ .mark .comma :: .word .var :: .word .var :: .mark .arrow ::
      sources ++ [.mark .closeRound], _, Atom.reduce .var .var takes starts takes, by simp⟩
  · refine awaits_of_phrase fun numeral => ?_
    rcases awaits numeral with ⟨behind, body, gives⟩
    exact ⟨_, behind ++ [.mark .closeRound], _, Atom.reduce first second takes starts gives,
      by simp⟩

theorem Breaks.atom (breaks : Breaks room inner (Awaits rule)) (reads : Reads inner rule) :
    Breaks (room + 1) (Grammar.atom inner) (Awaits (Atom rule)) := by
  have brackets : Breaks (room + 1) (Grammar.parenthesized inner) (Awaits (Atom rule)) := by
    refine breaks.parenthesized.mono ?_
    rintro tokens ⟨inside, rfl, awaits⟩
    refine awaits_of_phrase fun numeral => ?_
    rcases awaits numeral with ⟨behind, node, phrase⟩
    exact ⟨_, behind ++ [.mark .closeRound], node, Atom.parenthesized phrase, by simp⟩
  have numbers : Breaks (room + 1) number (Awaits (Atom rule)) := by
    refine (breaks_number _).mono ?_
    rintro tokens rfl numeral
    exact ⟨[], _, .number numeral⟩
  have names : Breaks (room + 1) name (Awaits (Atom rule)) := breaks_of_faultless faultless_name _ _
  exact ((((((brackets.orElse (breaks.range reads)).orElse (breaks.sequence reads)).orElse
    numbers).orElse (breaks.reduction reads)).orElse (breaks.mapping reads)).orElse names).token

theorem Breaks.chain (operator : Operator) (breaks : Breaks room inner (Awaits rule))
    (reads : Reads inner rule) :
    Breaks room (Grammar.chain operator inner) (Awaits (Chain operator rule)) := by
  refine ((breaks.delimitedBy reads (faultless_keyword _)
    (reads_keyword (.mark (.operator operator)))).map _).mono ?_
  intro tokens awaits numeral
  rcases awaits numeral with ⟨behind, operands, listed⟩
  exact ⟨behind, _, .operands listed⟩

theorem Breaks.sums (breaks : Breaks room inner (Awaits rule)) (reads : Reads inner rule) :
    Breaks (room + 1) (Grammar.sums inner) (Awaits (Sums rule)) := by
  have powers := (breaks.atom reads).chain .power reads.atom
  have quotients := powers.chain .over (reads.atom.chain .power)
  have products := quotients.chain .times ((reads.atom.chain .power).chain .over)
  have differences := products.chain .minus (((reads.atom.chain .power).chain .over).chain .times)
  exact differences.chain .plus
    ((((reads.atom.chain .power).chain .over).chain .times).chain .minus)

end Rules

theorem breaks_expression (depth : Nat) :
    Breaks depth (expression depth) (Awaits (Expression depth)) := by
  induction depth with
  | zero =>
      intro text cause fault
      cases fault
      exact .inl ⟨rfl, Nat.zero_le _⟩
  | succ depth inductionHypothesis => exact inductionHypothesis.sums (reads_expression depth)

/-!
## Statements and programs
-/

theorem breaks_statement (depth : Nat) :
    Breaks depth (statement depth) (Awaits (Statement depth)) := by
  have declarations : Breaks depth (declaration depth) (Awaits (Statement depth)) := by
    have declared := breaks_of_faultless (faultless_name.skipRight (faultless_keyword "=".toList))
      depth fun _ => False
    refine (((declared.bind (reads_name.skipRight (reads_keyword (.mark .equals)))
      fun _ declared _ => (breaks_expression depth).map fun value =>
        Node.declare declared value).skipLeft (faultless_keyword _)
      (reads_keyword (.word .var))).less (Nat.le_succ depth)).mono ?_
    rintro tokens ⟨_, rfl, impossible | ⟨front, others, _, rfl, ⟨names, rfl, declared, rfl, rfl⟩,
      awaits⟩⟩
    · cases impossible
    · intro numeral
      rcases awaits numeral with ⟨behind, node, bound⟩
      exact ⟨behind, _, .declaration declared bound⟩
  have outputs : Breaks depth (output depth) (Awaits (Statement depth)) := by
    refine ((((breaks_expression depth).map Node.out).skipLeft (faultless_keyword _)
      (reads_keyword (.word .out))).less (Nat.le_succ depth)).mono ?_
    rintro tokens ⟨others, rfl, awaits⟩ numeral
    rcases awaits numeral with ⟨behind, node, shown⟩
    exact ⟨behind, _, .output shown⟩
  have printings : Breaks depth printing (Awaits (Statement depth)) :=
    breaks_of_faultless ((faultless_keyword _).skipLeft (faultless_string.map _)) _ _
  -- The tree of a statement always has a normal form.
  have normalizes (tokens : List Token) (raw : Node) (phrase : Statement depth tokens raw) :
      Breaks depth (Parser.ofExcept raw.normalize) fun _ => False := by
    intro text cause fault
    rcases formed_of_statement phrase with ⟨node, normal, _⟩
    have refused := ofExcept_eq_fault fault
    rw [normal] at refused
    cases refused
  refine (((declarations.orElse outputs).orElse printings).bind (reads_rawStatement depth)
    normalizes).mono ?_
  rintro tokens (awaits | ⟨_, _, _, _, _, impossible⟩)
  · exact awaits
  · cases impossible

theorem program_of_repeated {depth : Nat} {front back : List Token} {nodes raws : List Node}
    (repeated : Repeated (Rule.bind (.nothing : Rule Text) fun _ => Normalized depth) front nodes)
    (program : Program depth back raws) : ∃ all, Program depth (front ++ back) all := by
  induction repeated with
  | nil => exact ⟨raws, program⟩
  | cons first others inductionHypothesis =>
      rcases first with ⟨_, tokens, _, rfl, rfl, raw, phrase, _⟩
      rcases inductionHypothesis with ⟨all, rest⟩
      rw [List.append_assoc]
      exact ⟨raw :: all, .more phrase rest⟩

theorem breaks_program (depth : Nat) :
    Breaks depth ((statement depth).delimitedBy (char '\n').many) (Awaits (Program depth)) := by
  have lineEnds := breaks_of_faultless (faultless_many_satisfy (· == '\n')) depth fun _ => False
  have others := (lineEnds.bind reads_lineEnds fun _ _ _ => breaks_statement depth).many
    (reads_lineEnds.skipLeft (reads_statement depth))
  refine ((breaks_statement depth).bind (reads_statement depth)
    fun _ first _ => others.map (first :: ·)).mono ?_
  rintro tokens (awaits | ⟨front, _, _, rfl, ⟨raw, phrase, _⟩, between, last, nodes, rfl, repeated,
    impossible | ⟨_, _, _, rfl, rfl, awaits⟩⟩)
  · intro numeral
    rcases awaits numeral with ⟨behind, node, phrase⟩
    exact ⟨behind, _, .one phrase⟩
  · cases impossible
  · refine awaits_of_phrase fun numeral => ?_
    rcases awaits numeral with ⟨behind, node, lastPhrase⟩
    rcases program_of_repeated repeated (.one lastPhrase) with ⟨all, rest⟩
    exact ⟨_, behind, _, .more phrase rest, by simp⟩

theorem read_eq_fault {α : Type} {parser : Parser α} {text : Text} {cause : Fault}
    (breaks : read parser text = .fault cause) : parser text = .fault cause := by
  unfold read at breaks
  split at breaks
  · cases breaks
  · cases breaks
  · next found => cases breaks; exact found

theorem read_of_fault {α : Type} {parser : Parser α} {text : Text} {cause : Fault}
    (breaks : parser text = .fault cause) : read parser text = .fault cause := by
  simp only [read, breaks]

theorem parseProgram_of_fault {depth : Nat} {text : Text} {cause : Fault}
    (breaks : statement depth text = .fault cause) : parseProgram depth text = .fault cause := by
  apply read_of_fault
  exact bind_of_fault _ (bind_of_fault _ breaks)

theorem parseStatement_of_fault {depth : Nat} {text : Text} {cause : Fault}
    (breaks : statement depth text = .fault cause) : parseStatement depth text = .fault cause := by
  apply read_of_fault
  exact bind_of_fault _ breaks

theorem parseProgram_eq_fault {depth : Nat} {text : Text} {cause : Fault}
    (breaks : parseProgram depth text = .fault cause) :
    Broken depth (Awaits (Program depth)) text cause :=
  ((breaks_program depth).skipRight faultless_endOfText) text cause (read_eq_fault breaks)

theorem parseStatement_eq_fault {depth : Nat} {text : Text} {cause : Fault}
    (breaks : parseStatement depth text = .fault cause) :
    Broken depth (Awaits (Statement depth)) text cause :=
  ((breaks_statement depth).skipRight faultless_endOfText) text cause (read_eq_fault breaks)

/-!
## Illegible numerals behind a keyword
-/

/-- An illegible numeral starts with a minus sign or a digit, and with no blank. -/
theorem Illegible.starts (numeral : Illegible) :
    ∃ first others, numeral.text = first :: others ∧ Text.isBlank first = false ∧
      (first = '-' ∨ Text.isDigit first = true) := by
  rcases List.exists_cons_of_ne_nil numeral.nonempty with ⟨digit, others, whole⟩
  have isDigit := numeral.wholeDigits digit (by rw [whole]; exact List.mem_cons_self)
  rw [Illegible.text, Illegible.sign, whole]
  cases numeral.negative with
  | true => exact ⟨'-', _, rfl, by decide, .inl rfl⟩
  | false => exact ⟨digit, _, rfl, Text.isBlank_of_isDigit isDigit, .inr isDigit⟩

theorem Illegible.dropBlanks (numeral : Illegible) (rest : Text) :
    (numeral.text ++ rest).dropWhile Text.isBlank = numeral.text ++ rest := by
  rcases numeral.starts with ⟨first, others, starts, notBlank, _⟩
  rw [starts, List.cons_append, List.dropWhile_cons_of_neg (by rw [notBlank]; decide)]

theorem mark_fails {character first : Char} {rest : Text} (notBlank : Text.isBlank first = false)
    (different : first ≠ character) : (mark character).Fails (first :: rest) := by
  refine ⟨first :: rest, token_of_failure ?_⟩
  rw [List.dropWhile_cons_of_neg (by rw [notBlank]; decide), char, satisfy,
    if_neg (by simpa using different)]

theorem chain_of_fault {operator : Operator} {item : Parser Node} {text : Text} {cause : Fault}
    (breaks : item text = .fault cause) : chain operator item text = .fault cause :=
  map_of_fault _ (bind_of_fault _ breaks)

/-- An expression that starts with an illegible numeral breaks off there: nothing
that is tried before a number starts with a digit or a minus sign. -/
theorem expression_of_illegible (depth : Nat) (numeral : Illegible) {rest : Text}
    (stops : rest.takeWhile Text.isDigit = []) :
    expression (depth + 1) (numeral.text ++ rest) = .fault (.notDecimal numeral.text) := by
  have breaks := decimal_of_illegible numeral stops
  rcases numeral.starts with ⟨first, others, starts, notBlank, minusOrDigit⟩
  have different (bracket : Char) (noDigit : Text.isDigit bracket = false)
      (noMinus : bracket ≠ '-') : first ≠ bracket := by
    rintro rfl
    rcases minusOrDigit with isMinus | isDigit
    · exact noMinus isMinus
    · rw [noDigit] at isDigit
      cases isDigit
  have noRound : (mark '(').Fails (numeral.text ++ rest) := by
    rw [starts]
    exact mark_fails notBlank (different '(' (by decide) (by decide))
  have noBrace : (mark '\x7b').Fails (numeral.text ++ rest) := by
    rw [starts]
    exact mark_fails notBlank (different '\x7b' (by decide) (by decide))
  have numberBreaks : number (numeral.text ++ rest) = .fault (.notDecimal numeral.text) :=
    token_of_fault (map_of_fault _ (by rw [numeral.dropBlanks]; exact breaks))
  have bracketed : (((parenthesized (expression depth)).orElse (range (expression depth))).orElse
      (sequence (expression depth))).Fails (numeral.text ++ rest) :=
    ((noRound.bind _).orElse (noBrace.bind _)).orElse
      ((noBrace.bind _).orElse ((noBrace.bind _).map _))
  have atomBreaks : atom (expression depth) (numeral.text ++ rest) =
      .fault (.notDecimal numeral.text) := by
    refine token_of_fault ?_
    rw [numeral.dropBlanks]
    refine orElse_of_fault _ (orElse_of_fault _ (orElse_of_fault _ ?_))
    rw [bracketed.orElse_eq, numberBreaks]
  exact chain_of_fault (chain_of_fault (chain_of_fault (chain_of_fault
    (chain_of_fault atomBreaks))))

/-- A fault behind `out` ends the statement. -/
theorem statement_of_fault {depth : Nat} {text : Text} {cause : Fault}
    (noBlank : text.dropWhile Text.isBlank = text) (breaks : expression depth text = .fault cause) :
    statement depth ("out ".toList ++ text) = .fault cause := by
  have noVar : (keyword "var".toList).Fails ("out ".toList ++ text) := ⟨_, token_of_failure rfl⟩
  have isOut : keyword "out".toList ("out ".toList ++ text) = .success "out".toList text := by
    have symbolRead : symbol "out".toList (("out ".toList ++ text).dropWhile Text.isBlank) =
        .success "out".toList (' ' :: text) := rfl
    rw [keyword, token_of_success symbolRead, List.dropWhile_cons_of_pos (by decide), noBlank]
  refine bind_of_fault _ (orElse_of_fault _ ?_)
  have noDeclaration : (declaration depth).Fails ("out ".toList ++ text) := noVar.bind _
  rw [noDeclaration.orElse_eq, output, Parser.skipLeft, bind_of_success isOut]
  exact map_of_fault _ breaks

theorem statement_of_illegible (depth : Nat) (numeral : Illegible) {rest : Text}
    (stops : rest.takeWhile Text.isDigit = []) :
    statement (depth + 1) ("out ".toList ++ (numeral.text ++ rest)) =
      .fault (.notDecimal numeral.text) :=
  statement_of_fault (numeral.dropBlanks rest) (expression_of_illegible depth numeral stops)

/-- However deep expressions may be nested, an illegible numeral behind `out` is neither
read nor refused. -/
theorem not_returned_of_illegible (depth : Nat) (numeral : Illegible) {text rest : Text}
    (stops : rest.takeWhile Text.isDigit = [])
    (stands : text = "out ".toList ++ (numeral.text ++ rest)) :
    (¬ ((∃ nodes, parseProgram depth text = .success nodes) ∨
      ∃ error, parseProgram depth text = .failure error)) ∧
    ¬ ((∃ node, parseStatement depth text = .success node) ∨
      ∃ error, parseStatement depth text = .failure error) := by
  obtain ⟨cause, breaks⟩ : ∃ cause, statement depth text = .fault cause := by
    rw [stands]
    cases depth with
    | zero => exact ⟨_, statement_of_fault (numeral.dropBlanks rest) rfl⟩
    | succ depth => exact ⟨_, statement_of_illegible depth numeral stops⟩
  rw [parseProgram_of_fault breaks, parseStatement_of_fault breaks]
  simp

/-!
## What reading comes to
-/

/-- A text gives a value, is refused, or holds an illegible numeral in a place
where a numeral may stand. -/
def Settled {α : Type} (rule : Rule α) (text : Text) (outcome : Outcome SyntaxError α) : Prop :=
  (∃ value, outcome = .success value) ∨ (∃ error, outcome = .failure error) ∨
    ∃ numeral, StandsBehind (Awaits rule) numeral text ∧
      outcome = .fault (.notDecimal numeral.text)

theorem settled_of_eq_fault {α : Type} {rule : Rule α} {room : Nat} {text : Text}
    {outcome : Outcome SyntaxError α} (short : text.length < room)
    (causes : forall cause, outcome = .fault cause -> Broken room (Awaits rule) text cause) :
    Settled rule text outcome := by
  cases outcome with
  | success value => exact .inl ⟨value, rfl⟩
  | failure error => exact .inr (.inl ⟨error, rfl⟩)
  | fault cause =>
      rcases causes cause rfl with ⟨_, long⟩ | ⟨numeral, stands, rfl⟩
      · omega
      · exact .inr (.inr ⟨numeral, stands, rfl⟩)

/-- Where all digits have place values there is nothing illegible. -/
theorem Settled.returns {α : Type} {rule : Rule α} {text : Text}
    {outcome : Outcome SyntaxError α} (settled : Settled rule text outcome)
    (decimal : forall character, character ∈ text -> Text.isDigit character = true ->
      (Text.decimalValue? character).isSome = true) :
    (∃ value, outcome = .success value) ∨ ∃ error, outcome = .failure error := by
  rcases settled with success | failure | ⟨numeral, ⟨consumed, _, rest, rfl, _⟩, _⟩
  · exact .inl success
  · exact .inr failure
  · rcases numeral.exists_digit with ⟨character, member, isDigit, valueless⟩
    have inText : character ∈ consumed ++ (numeral.text ++ rest) :=
      List.mem_append_right _ (List.mem_append_left _ member)
    have hasValue := decimal character inText isDigit
    rw [valueless] at hasValue
    cases hasValue

/-- Reading a program or a statement ends with a value or a syntax error, with one
exception.  The exception is a numeral with a digit that has no place value, in a
place where a numeral may stand; it ends reading in a fault that names it.  A text
whose digits are all decimal is therefore never a fault, and every illegible
numeral behind `out` is one.  Room for as many nested expressions as the text has
characters is always enough. -/
theorem reading_settled {depth : Nat} {text : Text} (short : text.length < depth) :
    (Settled (Program depth) text (parseProgram depth text) ∧
      Settled (Statement depth) text (parseStatement depth text)) ∧
    ((forall character, character ∈ text -> Text.isDigit character = true ->
        (Text.decimalValue? character).isSome = true) ->
      ((∃ nodes, parseProgram depth text = .success nodes) ∨
        ∃ error, parseProgram depth text = .failure error) ∧
      ((∃ node, parseStatement depth text = .success node) ∨
        ∃ error, parseStatement depth text = .failure error)) ∧
    forall (numeral : Illegible) (rest : Text), rest.takeWhile Text.isDigit = [] ->
      text = "out ".toList ++ (numeral.text ++ rest) ->
      parseProgram depth text = .fault (.notDecimal numeral.text) ∧
      parseStatement depth text = .fault (.notDecimal numeral.text) := by
  have program : Settled (Program depth) text (parseProgram depth text) :=
    settled_of_eq_fault short fun _ => parseProgram_eq_fault
  have statement : Settled (Statement depth) text (parseStatement depth text) :=
    settled_of_eq_fault short fun _ => parseStatement_eq_fault
  refine ⟨⟨program, statement⟩, ?_, ?_⟩
  · intro decimal
    exact ⟨program.returns decimal, statement.returns decimal⟩
  · rintro numeral rest stops rfl
    obtain ⟨depth, rfl⟩ : ∃ fewer, depth = fewer + 1 := ⟨depth - 1, by omega⟩
    have breaks := statement_of_illegible depth numeral stops
    exact ⟨parseProgram_of_fault breaks, parseStatement_of_fault breaks⟩

/-- The digit two as a superscript. -/
def superscriptTwo : Illegible where
  negative := false
  whole := ['²']
  fraction := []
  nonempty := by decide
  wholeDigits := by simp only [List.mem_singleton, forall_eq]; decide
  fractionDigits := fun _ member => by cases member
  valueless := .inl ⟨rfl, by decide⟩

/-- A string literal may hold a superscript; a numeral may not. -/
theorem reading_settled_superscript :
    (Settled (Program 20) "print \"x²\" out ²".toList
        (parseProgram 20 "print \"x²\" out ²".toList) ∧
      Settled (Statement 20) "print \"x²\"".toList (parseStatement 20 "print \"x²\"".toList)) ∧
    (((∃ nodes, parseProgram 9 "out 12".toList = .success nodes) ∨
        ∃ error, parseProgram 9 "out 12".toList = .failure error) ∧
      ((∃ node, parseStatement 9 "out 12".toList = .success node) ∨
        ∃ error, parseStatement 9 "out 12".toList = .failure error)) ∧
    parseProgram 9 "out ²+1".toList = .fault (.notDecimal superscriptTwo.text) ∧
    parseStatement 9 "out ²+1".toList = .fault (.notDecimal superscriptTwo.text) := by
  have legible : "out 12".toList.all (fun character =>
      !Text.isDigit character || (Text.decimalValue? character).isSome) = true := by decide
  have decimal : forall character, character ∈ "out 12".toList -> Text.isDigit character = true ->
      (Text.decimalValue? character).isSome = true := by
    intro character member isDigit
    simpa [isDigit] using List.all_eq_true.mp legible character member
  refine ⟨⟨(reading_settled ?_).1.1, (reading_settled ?_).1.2⟩,
    (reading_settled ?_).2.1 decimal,
    (reading_settled ?_).2.2 superscriptTwo "+1".toList (by decide) (by decide)⟩
  all_goals decide

/-- Not every text is read or refused. -/
theorem superscript_neither_read_nor_refused :
    (¬ ((∃ nodes, parseProgram nestingLimit "out ²".toList = .success nodes) ∨
      ∃ error, parseProgram nestingLimit "out ²".toList = .failure error)) ∧
    ¬ ((∃ node, parseStatement nestingLimit "out ²".toList = .success node) ∨
      ∃ error, parseStatement nestingLimit "out ²".toList = .failure error) :=
  not_returned_of_illegible nestingLimit superscriptTwo List.takeWhile_nil (by decide)

end Grammar
end SequenceCalculator
