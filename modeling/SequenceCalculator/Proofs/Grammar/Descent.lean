import Mathlib.Data.List.Chain
import SequenceCalculator.Proofs.Grammar.Breaking
import SequenceCalculator.Proofs.Parsing.Forward

namespace SequenceCalculator
namespace Grammar

/-!
# Reading comes to an end

The grammar calls itself in one place only: an expression may stand inside an
expression.  It does so behind at least one token, so each expression starts at an end
of the text that is shorter than the one before, and there are never more expressions
inside one another than the text has characters.  The bound on the nesting is therefore
a bound on nothing else: where it is at least the length of the text, it does not
matter.

What is shown for every rule is what its answer hinges on.  Two parsers for the
expressions inside a rule that agree behind the first character of a text make no
difference to what the rule makes of that text.
-/

open Number SequenceCalculator.Parser

section Laws

variable {α β γ δ : Type}

/-- Two parsers do the same wherever at least the given number of characters lies in
front. -/
def AgreeBehind (gap : Nat) (first second : Parser γ) (text : Text) : Prop :=
  forall place, place <:+ text -> place.length + gap ≤ text.length -> first place = second place

theorem AgreeBehind.suffix {gap : Nat} {first second : Parser γ} {text rest : Text}
    (agree : AgreeBehind gap first second text) (isEnd : rest <:+ text) :
    AgreeBehind gap first second rest := by
  intro place isPlace behind
  have shorter := isEnd.length_le
  exact agree place (isPlace.trans isEnd) (by omega)

/-- A parser that moves forward and differs from another one only through what two
parsers inside of them do behind the given number of characters. -/
structure Hinges (gap : Nat) (first second : Parser γ) (parser other : Parser α) : Prop where
  forward : parser.Forward
  same : forall text, AgreeBehind gap first second text -> parser text = other text

namespace Hinges

variable {gap : Nat} {first second : Parser γ} {parser parser' alternative alternative' : Parser α}

theorem inside (forward : first.Forward) : Hinges 0 first second first second :=
  ⟨forward, fun text agree => agree text (List.suffix_refl text) (Nat.le_refl _)⟩

theorem refl (forward : parser.Forward) : Hinges gap first second parser parser :=
  ⟨forward, fun _ _ => rfl⟩

theorem bind {next next' : α -> Parser β} (hinges : Hinges gap first second parser parser')
    (hingesNext : forall value, Hinges gap first second (next value) (next' value)) :
    Hinges gap first second (parser.bind next) (parser'.bind next') := by
  refine ⟨hinges.forward.bind fun value => (hingesNext value).forward, fun text agree => ?_⟩
  rw [Parser.bind, Parser.bind, ← hinges.same text agree]
  cases found : parser text with
  | success value between =>
      exact (hingesNext value).same between (agree.suffix (hinges.forward.of_success found))
  | failure last => rfl
  | fault cause => rfl

theorem map (hinges : Hinges gap first second parser parser') (change : α -> β) :
    Hinges gap first second (parser.map change) (parser'.map change) := by
  refine ⟨hinges.forward.map change, fun text agree => ?_⟩
  rw [map_eq, map_eq, hinges.same text agree]

theorem orElse (hinges : Hinges gap first second parser parser')
    (alsoHinges : Hinges gap first second alternative alternative') :
    Hinges gap first second (parser.orElse alternative) (parser'.orElse alternative') := by
  refine ⟨hinges.forward.orElse alsoHinges.forward, fun text agree => ?_⟩
  rw [Parser.orElse, Parser.orElse, ← hinges.same text agree, alsoHinges.same text agree]

theorem skipLeft {left : Parser β} (hinges : Hinges gap first second parser parser')
    (forward : left.Forward) :
    Hinges gap first second (left.skipLeft parser) (left.skipLeft parser') :=
  (refl forward).bind fun _ => hinges

theorem skipRight {right : Parser β} (hinges : Hinges gap first second parser parser')
    (forward : right.Forward) :
    Hinges gap first second (parser.skipRight right) (parser'.skipRight right) :=
  hinges.bind fun value => (refl forward).map fun _ => value

/-- Behind a token at least one character lies in front. -/
theorem behind {left : Parser β} {token : Token} (hinges : Hinges 0 first second parser parser')
    (forward : left.Forward) (reads : Reads left (.exactly token)) :
    Hinges 1 first second (left.skipLeft parser) (left.skipLeft parser') := by
  refine ⟨forward.skipLeft hinges.forward, fun text agree => ?_⟩
  rw [Parser.skipLeft, Parser.skipLeft, Parser.bind, Parser.bind]
  cases found : left text with
  | failure last => rfl
  | fault cause => rfl
  | success value between =>
      rcases reads text value between found with ⟨consumed, tokens, rfl, padded, rfl⟩
      have something := List.length_pos_iff.mpr padded.ne_nil
      refine hinges.same between fun place isPlace _ => ?_
      have shorter := isPlace.length_le
      refine agree place (isPlace.trans (List.suffix_append _ _)) ?_
      rw [List.length_append]
      omega

theorem token (hinges : Hinges gap first second parser parser') :
    Hinges gap first second (Parser.token parser) (Parser.token parser') :=
  (hinges.skipRight (Forward.satisfy _).many).skipLeft (Forward.satisfy _).many

theorem manyUpTo (hinges : Hinges gap first second parser parser') (bound : Nat) :
    Hinges gap first second (parser.manyUpTo bound) (parser'.manyUpTo bound) := by
  refine ⟨hinges.forward.manyUpTo bound, ?_⟩
  induction bound with
  | zero => exact fun _ _ => rfl
  | succ bound inductionHypothesis =>
      intro text agree
      rw [Parser.manyUpTo, Parser.manyUpTo, ← hinges.same text agree]
      cases found : parser text with
      | failure last => rfl
      | fault cause => rfl
      | success value between =>
          have later := inductionHypothesis between
            (agree.suffix (hinges.forward.of_success found))
          dsimp only
          rw [map_eq, map_eq, later]

theorem delimitedBy {delimiter : Parser β} (hinges : Hinges gap first second parser parser')
    (forward : delimiter.Forward) :
    Hinges gap first second (parser.delimitedBy delimiter) (parser'.delimitedBy delimiter) := by
  refine hinges.bind fun value => Hinges.map ?_ _
  have rounds := hinges.skipLeft forward
  exact ⟨rounds.forward.many, fun text agree => (rounds.manyUpTo _).same text agree⟩

end Hinges

end Laws

/-!
## Expressions
-/

theorem forward_mark (character : Char) : (mark character).Forward :=
  (Forward.satisfy _).token

theorem forward_name : name.Forward :=
  ((Forward.satisfy _).atLeastOne.token).map _

theorem forward_digits : digits.Forward := (Forward.satisfy _).atLeastOne

theorem forward_number : number.Forward := by
  refine Forward.token (Forward.map ?_ _)
  have signs : sign.Forward := ((Forward.satisfy _).map _).orElse (.pure _)
  refine signs.bind fun sign => forward_digits.bind fun whole => ?_
  cases convertDecimal sign whole [] with
  | error fault => exact .abort _
  | ok value =>
      exact (((Forward.satisfy _).skipLeft forward_digits).bind fun _ => .ofExcept _).orElse
        (.pure _)

theorem forward_string : string.Forward := by
  have characters : stringCharacter.Forward :=
    ((Forward.satisfy _).orElse (.satisfy _)).orElse (.satisfy _)
  exact (characters.many.between (.satisfy _) (.satisfy _)).token.map _

section Rules

variable {first second : Parser Node} (forward : first.Forward)
include forward

theorem hinges_beforeKeyword (literal : Text) :
    Hinges 0 first second (first.skipRight (keyword literal))
      (second.skipRight (keyword literal)) :=
  (Hinges.inside forward).skipRight (.keyword literal)

omit forward in
theorem hinges_parenthesized {α : Type} {parser other : Parser α}
    (hinges : Hinges 0 first second parser other) :
    Hinges 1 first second (parenthesized parser) (parenthesized other) :=
  (hinges.skipRight (forward_mark ')')).behind (forward_mark '(')
    (reads_mark (rfl : Mark.openRound.text = ['(']))

omit forward in
theorem hinges_braced {α : Type} {parser other : Parser α}
    (hinges : Hinges 0 first second parser other) :
    Hinges 1 first second (braced parser) (braced other) :=
  (hinges.skipRight (forward_mark '\x7d')).behind (forward_mark '\x7b')
    (reads_mark (rfl : Mark.openBrace.text = ['\x7b']))

theorem hinges_range : Hinges 1 first second (range first) (range second) :=
  hinges_braced ((hinges_beforeKeyword forward _).bind fun _ =>
    (Hinges.inside forward).bind fun _ => .refl (.pure _))

theorem hinges_sequence : Hinges 1 first second (sequence first) (sequence second) := by
  have inside : Hinges 0 first second first second := .inside forward
  have elements := (inside.delimitedBy (.keyword ",".toList)).map Node.sequence
  exact (hinges_braced elements).orElse
    (.refl (((forward_mark _).skipLeft (forward_mark _)).map _))

theorem hinges_mapper : Hinges 0 first second (mapper first) (mapper second) :=
  ((Hinges.refl (forward_name.skipRight (.keyword _))).bind fun _ =>
    (Hinges.inside forward).map _).token

theorem hinges_reducer : Hinges 0 first second (reducer first) (reducer second) :=
  ((Hinges.refl forward_name).bind fun _ =>
    (Hinges.refl (forward_name.skipRight (.keyword _))).bind fun _ =>
      (Hinges.inside forward).map _).token

theorem hinges_map : Hinges 1 first second (Grammar.map first) (Grammar.map second) :=
  (hinges_parenthesized ((hinges_beforeKeyword forward _).bind fun _ =>
    (hinges_mapper forward).map _)).skipLeft (.keyword _)

theorem hinges_reduce : Hinges 1 first second (Grammar.reduce first) (Grammar.reduce second) :=
  (hinges_parenthesized ((hinges_beforeKeyword forward _).bind fun _ =>
    (hinges_beforeKeyword forward _).bind fun _ =>
      (hinges_reducer forward).map _)).skipLeft (.keyword _)

theorem hinges_atom : Hinges 1 first second (atom first) (atom second) :=
  (((((((hinges_parenthesized (.inside forward)).orElse (hinges_range forward)).orElse
    (hinges_sequence forward)).orElse (.refl forward_number)).orElse
      (hinges_reduce forward)).orElse (hinges_map forward)).orElse (.refl forward_name)).token

omit forward in
theorem hinges_chain {item other : Parser Node} (operator : Operator)
    (hinges : Hinges 1 first second item other) :
    Hinges 1 first second (chain operator item) (chain operator other) :=
  (hinges.delimitedBy (.keyword _)).map _

/-- What an expression comes to hinges on the expressions inside of it only where they
start behind the first character. -/
theorem hinges_sums : Hinges 1 first second (sums first) (sums second) :=
  hinges_chain .plus (hinges_chain .minus (hinges_chain .times (hinges_chain .over
    (hinges_chain .power (hinges_atom forward)))))

end Rules

theorem forward_expression (depth : Nat) : (expression depth).Forward := by
  induction depth with
  | zero => exact .abort _
  | succ depth inductionHypothesis =>
      have same : Hinges 1 (expression depth) (expression depth) _ _ :=
        hinges_sums inductionHypothesis
      exact same.forward

/-- With more room than the text has characters, more room does not change what an
expression comes to. -/
theorem expression_of_room {depth other : Nat} {text : Text} (short : text.length < depth)
    (alsoShort : text.length < other) : expression depth text = expression other text := by
  induction depth generalizing other text with
  | zero => omega
  | succ depth inductionHypothesis =>
      obtain ⟨other, rfl⟩ : ∃ fewer, other = fewer + 1 := ⟨other - 1, by omega⟩
      refine (hinges_sums (forward_expression depth)).same text ?_
      intro place _ behind
      exact inductionHypothesis (by omega) (by omega)

/-!
## Statements and programs
-/

theorem hinges_declaration (depth other : Nat) :
    Hinges 1 (expression depth) (expression other) (declaration depth) (declaration other) :=
  ((Hinges.refl (forward_name.skipRight (.keyword _))).bind fun _ =>
    (Hinges.inside (forward_expression depth)).map _).behind (.keyword _)
      (reads_keyword (.word .var))

theorem hinges_output (depth other : Nat) :
    Hinges 1 (expression depth) (expression other) (output depth) (output other) :=
  ((Hinges.inside (forward_expression depth)).map _).behind (.keyword _)
    (reads_keyword (.word .out))

theorem hinges_statement (depth other : Nat) :
    Hinges 1 (expression depth) (expression other) (statement depth) (statement other) :=
  (((hinges_declaration depth other).orElse (hinges_output depth other)).orElse
    (.refl ((Forward.keyword _).skipLeft (forward_string.map _)))).bind fun _ =>
      .refl (.ofExcept _)

theorem forward_statement (depth : Nat) : (statement depth).Forward :=
  (hinges_statement depth depth).forward

theorem hinges_wholeProgram (depth other : Nat) :
    Hinges 1 (expression depth) (expression other) (wholeProgram depth) (wholeProgram other) :=
  ((hinges_statement depth other).delimitedBy (Forward.satisfy _).many).skipRight .endOfText

theorem hinges_singleStatement (depth other : Nat) :
    Hinges 1 (expression depth) (expression other) (singleStatement depth)
      (singleStatement other) :=
  (hinges_statement depth other).skipRight .endOfText

/-- In a statement every expression stands behind a keyword, so room for as many
expressions as the text has characters is enough. -/
theorem agreeBehind_of_room {depth other : Nat} {text : Text} (short : text.length ≤ depth)
    (alsoShort : text.length ≤ other) :
    AgreeBehind 1 (expression depth) (expression other) text := by
  intro place _ behind
  exact expression_of_room (by omega) (by omega)

theorem read_congr {α : Type} {first second : Parser α} {text : Text}
    (same : first text = second text) : read first text = read second text := by
  rw [read, same, read]

theorem parseProgram_of_room {depth other : Nat} {text : Text} (short : text.length ≤ depth)
    (alsoShort : text.length ≤ other) : parseProgram depth text = parseProgram other text :=
  read_congr ((hinges_wholeProgram depth other).same text (agreeBehind_of_room short alsoShort))

theorem parseStatement_of_room {depth other : Nat} {text : Text} (short : text.length ≤ depth)
    (alsoShort : text.length ≤ other) : parseStatement depth text = parseStatement other text :=
  read_congr ((hinges_singleStatement depth other).same text (agreeBehind_of_room short alsoShort))

/-- An illegible numeral is no want of room. -/
theorem not_broken_tooDeep {room : Nat} {ahead : List Token -> Prop} {text : Text}
    (short : text.length < room) : ¬ Broken room ahead text .tooDeep := by
  rintro (⟨_, long⟩ | ⟨numeral, _, named⟩)
  · omega
  · cases named

theorem parseProgram_ne_tooDeep {depth : Nat} {text : Text} (short : text.length ≤ depth) :
    parseProgram depth text ≠ .fault .tooDeep := by
  rw [parseProgram_of_room short (short.trans (Nat.le_succ depth))]
  intro breaks
  exact not_broken_tooDeep (Nat.lt_succ_of_le short) (parseProgram_eq_fault breaks)

theorem parseStatement_ne_tooDeep {depth : Nat} {text : Text} (short : text.length ≤ depth) :
    parseStatement depth text ≠ .fault .tooDeep := by
  rw [parseStatement_of_room short (short.trans (Nat.le_succ depth))]
  intro breaks
  exact not_broken_tooDeep (Nat.lt_succ_of_le short) (parseStatement_eq_fault breaks)

/-!
## Expressions inside one another
-/

/-- A parser that is the given one but breaks off with a fault at one place. -/
def trapped {α : Type} (parser : Parser α) (place : Text) (cause : Fault) : Parser α :=
  fun text => if text = place then .fault cause else parser text

/-- A rule on a text comes to call the parser inside of it at a place: whatever fault
that call breaks off with, the rule breaks off with it. -/
def Calls (rule : Parser Node -> Parser Node) (inner : Parser Node) (text place : Text) : Prop :=
  forall cause, rule (trapped inner place cause) text = .fault cause

/-- While an expression is read at the outer place, another one is started at the inner
place. -/
def Reenters (outer inner : Text) : Prop :=
  ∃ depth, Calls sums (expression depth) outer inner

/-- Without a trap in its way an expression does not break off in two ways. -/
theorem Reenters.strictly_beyond {outer inner : Text} (reenters : Reenters outer inner) :
    inner <:+ outer ∧ inner.length < outer.length := by
  rcases reenters with ⟨depth, calls⟩
  by_contra elsewhere
  have untouched (cause : Fault) :
      sums (expression depth) outer = sums (trapped (expression depth) inner cause) outer := by
    refine (hinges_sums (forward_expression depth)).same outer fun place isPlace behind => ?_
    rw [trapped, if_neg]
    rintro rfl
    exact elsewhere ⟨isPlace, by omega⟩
  have broken := (untouched .tooDeep).trans (calls .tooDeep)
  rw [(untouched .noResult).trans (calls .noResult)] at broken
  cases broken

/-- A bracket makes the parser start another expression behind it. -/
theorem reenters_of_bracket (text : Text) :
    Reenters ('(' :: text) (text.dropWhile Text.isBlank) := by
  refine ⟨0, fun cause => ?_⟩
  have opens : mark '(' ('(' :: text) = .success '(' (text.dropWhile Text.isBlank) :=
    token_of_success (satisfy_cons_of_true (by decide) text)
  have breaks (inner : Parser Node)
      (trap : inner (text.dropWhile Text.isBlank) = .fault cause) :
      atom inner ('(' :: text) = .fault cause := by
    have inBrackets : parenthesized inner ('(' :: text) = .fault cause := by
      rw [parenthesized, Parser.between, Parser.skipLeft, bind_of_success opens]
      exact bind_of_fault _ trap
    refine token_of_fault ?_
    rw [List.dropWhile_cons_of_neg (by decide)]
    exact orElse_of_fault _ (orElse_of_fault _ (orElse_of_fault _ (orElse_of_fault _
      (orElse_of_fault _ (orElse_of_fault _ inBrackets)))))
  exact chain_of_fault (chain_of_fault (chain_of_fault (chain_of_fault
    (chain_of_fault (breaks _ (if_pos rfl))))))

/-- As many brackets start as many expressions inside one another. -/
theorem brackets_nest (count : Nat) : ∃ places,
    List.IsChain Reenters (List.replicate count '(' :: places) ∧ places.length = count := by
  induction count with
  | zero => exact ⟨[], .singleton _, rfl⟩
  | succ count inductionHypothesis =>
      rcases inductionHypothesis with ⟨places, nested, many⟩
      have reenters := reenters_of_bracket (List.replicate count '(')
      have noBlanks : (List.replicate count '(').dropWhile Text.isBlank =
          List.replicate count '(' := by
        cases count with
        | zero => rfl
        | succ count => exact List.dropWhile_cons_of_neg (by decide)
      rw [noBlanks] at reenters
      exact ⟨List.replicate count '(' :: places, .cons_cons reenters nested, by simp [many]⟩

/-- Expressions inside one another, from the outermost to the innermost, are not more
than the characters of the text that the outermost one is read from. -/
theorem length_le_of_isChain {text : Text} {places : List Text}
    (nested : List.IsChain Reenters (text :: places)) : places.length ≤ text.length := by
  induction places generalizing text with
  | nil => exact Nat.zero_le _
  | cons place places inductionHypothesis =>
      rcases List.isChain_cons_cons.mp nested with ⟨reenters, deeper⟩
      have shorter := reenters.strictly_beyond.2
      have fewer := inductionHypothesis deeper
      rw [List.length_cons]
      omega

/-!
## Repetitions
-/

/-- The items of each level of operators. -/
def operand (inner : Parser Node) : Operator -> Parser Node
  | .power => atom inner
  | .over => powers inner
  | .times => quotients inner
  | .minus => products inner
  | .plus => differences inner

/-- The parsers that the grammar repeats with `many`. -/
inductive Looped : {α : Type} -> Parser α -> Prop where
  | blanks : Looped blank
  | letters : Looped letter
  | digits : Looped digit
  | characters : Looped stringCharacter
  | elements (depth : Nat) : Looped ((keyword ",".toList).skipLeft (expression depth))
  | operands (depth : Nat) (operator : Operator) :
      Looped ((keyword [operator.symbol]).skipLeft (operand (expression depth) operator))
  | lineEnds : Looped (char '\n')
  | statements (depth : Nat) : Looped ((char '\n').many.skipLeft (statement depth))

theorem forward_operand {inner : Parser Node} (forward : inner.Forward) (operator : Operator) :
    (operand inner operator).Forward := by
  have atoms : Hinges 1 inner inner (atom inner) (atom inner) := hinges_atom forward
  have quotients := hinges_chain .over (hinges_chain .power atoms)
  match operator with
  | .power => exact atoms.forward
  | .over => exact (hinges_chain .power atoms).forward
  | .times => exact quotients.forward
  | .minus => exact (hinges_chain .times quotients).forward
  | .plus => exact (hinges_chain .minus (hinges_chain .times quotients)).forward

theorem Looped.forward {α : Type} {part : Parser α} (looped : Looped part) : part.Forward := by
  cases looped with
  | blanks => exact .satisfy _
  | letters => exact .satisfy _
  | digits => exact .satisfy _
  | characters => exact ((Forward.satisfy _).orElse (.satisfy _)).orElse (.satisfy _)
  | elements depth => exact (Forward.keyword _).skipLeft (forward_expression depth)
  | operands depth operator =>
      exact (Forward.keyword _).skipLeft (forward_operand (forward_expression depth) operator)
  | lineEnds => exact .satisfy _
  | statements depth => exact (Forward.satisfy _).many.skipLeft (forward_statement depth)

/-- Reading ends on every text.

An expression that is started while another one is read starts at an end of the text
that is shorter than the one where the enclosing expression starts, so expressions
inside one another are not more than the characters of the text.  Each repetition of
the grammar ends by itself, after at most one more round than there are characters.
Therefore reading never runs out of room where the bound on the nesting is at least
the length of the text, and what is read does not depend on the bound. -/
theorem reading_terminates (text : Text) :
    (forall outer inner, Reenters outer inner -> inner <:+ outer ∧ inner.length < outer.length) ∧
    (forall places, List.IsChain Reenters (text :: places) -> places.length ≤ text.length) ∧
    (forall (α : Type) (part : Parser α), Looped part ->
      ∃ rounds, rounds ≤ text.length + 1 ∧ Rounds part text rounds (part.many text)) ∧
    forall depth, text.length ≤ depth ->
      (parseProgram depth text ≠ .fault .tooDeep ∧ parseStatement depth text ≠ .fault .tooDeep) ∧
      forall other, text.length ≤ other ->
        parseProgram depth text = parseProgram other text ∧
        parseStatement depth text = parseStatement other text := by
  refine ⟨fun outer inner => Reenters.strictly_beyond, fun places => length_le_of_isChain,
    fun α part looped => looped.forward.rounds_many text, fun depth short => ⟨?_, ?_⟩⟩
  · exact ⟨parseProgram_ne_tooDeep short, parseStatement_ne_tooDeep short⟩
  · intro other alsoShort
    exact ⟨parseProgram_of_room short alsoShort, parseStatement_of_room short alsoShort⟩

end Grammar
end SequenceCalculator
