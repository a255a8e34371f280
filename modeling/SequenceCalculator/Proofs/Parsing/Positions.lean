import SequenceCalculator.Parsing.Unreadable
import SequenceCalculator.Proofs.Parsing.Cursors

namespace SequenceCalculator

/-!
# Positions move forward and stay in the source

A parser sees nothing but the text that is left, and what it leaves over is an end of
that text.  Seen from the source, a position in it is therefore only ever moved towards
the end and never beyond it, on success and on failure alike, and what is left over is
the part of the source that starts there.

This holds for everything that is built from the combinators.  A parser may refer to
itself: it is resolved anew on every call, so what it makes of a text is what it makes of
it when it is resolved often enough.
-/

namespace Parser

/-- The parsers that are built from the combinators, whatever tests, values and
continuations are put in.  Joining characters to a text is a change of the value, and a
change that may have no value goes on with a failure. -/
inductive Built : {α : Type} -> Parser α -> Prop where
  | satisfy (test : Char -> Bool) : Built (Parser.satisfy test)
  | endOfText : Built Parser.endOfText
  | pure {α : Type} (value : α) : Built (Parser.pure value)
  | fail {α : Type} : Built (Parser.fail : Parser α)
  /-- A value that cannot be computed. -/
  | abort {α : Type} (cause : Fault) : Built (Parser.abort cause : Parser α)
  | symbol (literal : Text) : Built (Parser.symbol literal)
  | firstOf {α : Type} {parsers : List (Parser α)}
      (each : forall parser, parser ∈ parsers -> Built parser) : Built (Parser.firstOf parsers)
  | map {α β : Type} {parser : Parser α} (built : Built parser) (change : α -> β) :
      Built (parser.map change)
  | mapTo {α β : Type} {parser : Parser α} (built : Built parser) (value : β) :
      Built (parser.mapTo value)
  | bind {α β : Type} {parser : Parser α} {next : α -> Parser β} (built : Built parser)
      (builtNext : forall value, Built (next value)) : Built (parser.bind next)
  | orElse {α : Type} {parser alternative : Parser α} (built : Built parser)
      (alsoBuilt : Built alternative) : Built (parser.orElse alternative)
  | many {α : Type} {parser : Parser α} (built : Built parser) : Built parser.many
  | atLeastOne {α : Type} {parser : Parser α} (built : Built parser) : Built parser.atLeastOne
  | delimitedBy {α β : Type} {parser : Parser α} {delimiter : Parser β} (built : Built parser)
      (builtDelimiter : Built delimiter) : Built (parser.delimitedBy delimiter)
  | between {α β γ : Type} {parser : Parser α} {left : Parser β} {right : Parser γ}
      (built : Built parser) (builtLeft : Built left) (builtRight : Built right) :
      Built (parser.between left right)
  | skipLeft {α β : Type} {parser : Parser α} {next : Parser β} (built : Built parser)
      (builtNext : Built next) : Built (parser.skipLeft next)
  | skipRight {α β : Type} {parser : Parser α} {next : Parser β} (built : Built parser)
      (builtNext : Built next) : Built (parser.skipRight next)
  | token {α : Type} {parser : Parser α} (built : Built parser) : Built (Parser.token parser)
  /-- A parser that is resolved on every call.  Each text is settled when it has been
  resolved some number of times, which may be different for every text. -/
  | deferred {α : Type} {parser : Parser α} {resolved : Nat -> Parser α}
      (built : forall times, Built (resolved times))
      (settled : forall text, ∃ times, parser text = resolved times text) : Built parser

/-- A rule that refers to itself, resolved a number of times. -/
def resolved {α : Type} (rule : Parser α -> Parser α) : (times : Nat) -> Parser α
  | 0 => abort .tooDeep
  | times + 1 => rule (resolved rule times)

namespace Built

variable {α β : Type}

theorem resolved {rule : Parser α -> Parser α}
    (builds : forall inner, Built inner -> Built (rule inner)) (times : Nat) :
    Built (Parser.resolved rule times) := by
  induction times with
  | zero => exact .abort _
  | succ times inductionHypothesis => exact builds _ inductionHypothesis

/-- Whatever is built moves forward.  The induction is on how it was built. -/
theorem forward {parser : Parser α} (built : Built parser) : parser.Forward := by
  induction built with
  | satisfy test => exact .satisfy test
  | endOfText => exact .endOfText
  | pure value => exact .pure value
  | fail => exact .fail
  | abort cause => exact .abort cause
  | symbol literal => exact .symbol literal
  | firstOf _ forward => exact .firstOf forward
  | map _ change forward => exact forward.map change
  | mapTo _ value forward => exact forward.map fun _ => value
  | bind _ _ forward forwardNext => exact forward.bind forwardNext
  | orElse _ _ forward alsoForward => exact forward.orElse alsoForward
  | many _ forward => exact forward.many
  | atLeastOne _ forward => exact forward.atLeastOne
  | delimitedBy _ _ forward forwardDelimiter => exact forward.delimitedBy forwardDelimiter
  | between _ _ _ forward forwardLeft forwardRight =>
      exact forward.between forwardLeft forwardRight
  | skipLeft _ _ forward forwardNext => exact forward.skipLeft forwardNext
  | skipRight _ _ forward forwardNext => exact forward.skipRight forwardNext
  | token _ forward => exact forward.token
  | deferred _ settled forward =>
      intro text rest left
      rcases settled text with ⟨times, same⟩
      exact forward times text rest (by rwa [← same])

theorem ofExcept (conversion : Except Fault α) : Built (Parser.ofExcept conversion) := by
  cases conversion with
  | ok value => exact .pure value
  | error cause => exact .abort cause

theorem char (character : Char) : Built (Parser.char character) := .satisfy _

theorem digits : Built Parser.digits := .atLeastOne (.satisfy _)

theorem sign : Built Parser.sign := .orElse (.mapTo (.char _) _) (.pure _)

theorem integer : Built Parser.integer :=
  .bind .sign fun _ => .bind .digits fun _ => .ofExcept _

theorem decimal : Built Parser.decimal := by
  refine .bind .sign fun sign => .bind .digits fun whole => ?_
  cases convertDecimal sign whole [] with
  | error cause => exact .abort cause
  | ok value =>
      exact .orElse (.bind (.skipLeft (.char _) .digits) fun _ => .ofExcept _) (.pure value)

end Built

end Parser

/-!
## Patterns
-/

namespace Pattern

open SequenceCalculator.Parser

theorem built_present {parser : Parser Datum} (built : parser.Built) : (present parser).Built := by
  refine .bind built fun datum => ?_
  cases datum with
  | nothing => exact .fail
  | text value => exact .pure _
  | integer value => exact .pure _
  | number value => exact .pure _
  | list items => exact .pure _

theorem built_changed {parser : Parser Datum} (built : parser.Built)
    (step : Datum -> Except Fault Datum) : (changed parser step).Built :=
  built_present (.bind built fun _ => .ofExcept _)

theorem built_charParser (literal : Datum) : (charParser literal).Built :=
  .map (.satisfy _) _

/-- Comparing the lengths first saves time and changes nothing. -/
theorem repeated_eq (count : Int) :
    repeated count = if countLimit < count || count < -countLimit - 1 then
        Parser.abort .uncountable
      else (Parser.symbol (List.replicate count.toNat 'x')).map Datum.text := by
  rw [repeated]
  split
  · rfl
  · funext input
    split
    · next short =>
      refine (Parser.map_of_failure _ ?_).symm
      rw [Parser.symbol, if_neg]
      intro starts
      have fits := (List.isPrefixOf_iff_prefix.mp starts).length_le
      rw [List.length_replicate] at fits
      omega
    · rfl

theorem built_repeated (count : Int) : (repeated count).Built := by
  rw [repeated_eq]
  split
  · exact .abort _
  · exact .map (.symbol _) _

theorem built_continuation (next : Continuation) (datum : Datum) :
    (continuation next datum).Built := by
  cases next with
  | sameCharacter => exact built_charParser datum
  | sameSymbol =>
      rw [continuation]
      split
      · exact .map (.symbol _) _
      · exact .fail
      · exact .abort _
  | twice => exact built_present (.ofExcept _)
  | counted =>
      rw [continuation]
      split
      · exact built_repeated _
      · exact .abort _
  | fail => exact .fail

mutual

/-- Every description is one of a parser that is built from the combinators. -/
theorem parser_built (definitions : Text -> Option Pattern) (depth : Nat) (pattern : Pattern) :
    (pattern.parser definitions depth).Built := by
  match pattern with
  | .endOfText => rw [parser]; exact .mapTo .endOfText _
  | .anyCharacter => rw [parser]; exact .map (.satisfy _) _
  | .digit => rw [parser]; exact .map (.satisfy _) _
  | .letter => rw [parser]; exact .map (.satisfy _) _
  | .blank => rw [parser]; exact .map (.satisfy _) _
  | .digits => rw [parser]; exact .map .digits _
  | .sign => rw [parser]; exact .map .sign _
  | .integer => rw [parser]; exact .map .integer _
  | .decimal => rw [parser]; exact .map .decimal _
  | .pure value => rw [parser]; exact built_present (.pure value)
  | .fail => rw [parser]; exact .fail
  | .char literal => rw [parser]; exact built_charParser _
  | .symbol literal => rw [parser]; exact .map (.symbol literal) _
  | .satisfy test name => rw [parser]; exact .map (.satisfy _) _
  | .firstOf alternatives =>
      rw [parser]
      exact .firstOf (parsers_built definitions depth alternatives)
  | .map pattern change =>
      rw [parser]
      exact built_changed (parser_built definitions depth pattern) _
  | .mapTo pattern value =>
      rw [parser]
      exact built_present (.mapTo (parser_built definitions depth pattern) value)
  | .bind pattern next =>
      rw [parser]
      exact .bind (parser_built definitions depth pattern) (built_continuation next)
  | .orElse pattern alternative =>
      rw [parser]
      exact .orElse (parser_built definitions depth pattern)
        (parser_built definitions depth alternative)
  | .many pattern => rw [parser]; exact .map (.many (parser_built definitions depth pattern)) _
  | .atLeastOne pattern =>
      rw [parser]
      exact .map (.atLeastOne (parser_built definitions depth pattern)) _
  | .text pattern =>
      rw [parser]
      exact built_changed (parser_built definitions depth pattern) _
  | .token pattern => rw [parser]; exact .token (parser_built definitions depth pattern)
  | .delimitedBy pattern delimiter =>
      rw [parser]
      exact .map (.delimitedBy (parser_built definitions depth pattern)
        (parser_built definitions depth delimiter)) _
  | .between pattern left right =>
      rw [parser]
      exact .between (parser_built definitions depth pattern)
        (parser_built definitions depth left) (parser_built definitions depth right)
  | .skipLeft pattern next =>
      rw [parser]
      exact .skipLeft (parser_built definitions depth pattern)
        (parser_built definitions depth next)
  | .skipRight pattern next =>
      rw [parser]
      exact .skipRight (parser_built definitions depth pattern)
        (parser_built definitions depth next)
  | .reference name =>
      cases depth with
      | zero => rw [parser]; exact .abort _
      | succ depth =>
          rw [parser]
          cases definitions name with
          | none => exact .abort _
          | some pattern => exact parser_built definitions depth pattern

theorem parsers_built (definitions : Text -> Option Pattern) (depth : Nat)
    (patterns : List Pattern) :
    forall parser, parser ∈ parsers definitions depth patterns -> parser.Built := by
  match patterns with
  | [] =>
      intro parser member
      rw [parsers] at member
      cases member
  | pattern :: patterns =>
      intro parser member
      rw [parsers] at member
      rcases List.mem_cons.mp member with rfl | later
      · exact parser_built definitions depth pattern
      · exact parsers_built definitions depth patterns parser later

end

end Pattern

/-!
## Positions
-/

namespace Cursor

/-- A position from the start of the source up to its end. -/
structure Inside (cursor : Cursor) : Prop where
  start : 0 ≤ cursor.offset
  stop : cursor.offset ≤ cursor.source.length

/-- A position in the same source that is no nearer to its start, and not beyond its
end. -/
structure Ahead (reached cursor : Cursor) : Prop where
  source : reached.source = cursor.source
  forward : cursor.offset ≤ reached.offset
  within : reached.offset ≤ cursor.source.length

namespace Inside

variable {cursor : Cursor}

/-- Inside the source a parser reads what stands behind the position. -/
theorem stream_eq (inside : cursor.Inside) :
    cursor.stream = cursor.source.drop cursor.offset.toNat := by
  have start := inside.start
  have stop := inside.stop
  have position : Text.position cursor.source.length cursor.offset = cursor.offset.toNat := by
    rw [Text.position, if_neg (by omega)]
    omega
  rw [stream, if_neg (by omega), unparsed, Text.dropTo, position]

theorem isUnreadable_eq (inside : cursor.Inside) : cursor.isUnreadable = false := by
  have start := inside.start
  rw [isUnreadable, decide_eq_false_iff_not]
  omega

/-- Where an end of what is read is left over, the position has moved forward to where
that end starts. -/
theorem reached (inside : cursor.Inside) {rest : Text} (isEnd : rest <:+ cursor.stream) :
    (cursor.reached rest).Ahead cursor ∧
      rest = cursor.source.drop (cursor.reached rest).offset.toNat := by
  have start := inside.start
  have stop := inside.stop
  have length : (cursor.stream.length : Int) = cursor.source.length - cursor.offset := by
    rw [inside.stream_eq, List.length_drop]
    omega
  have shorter := isEnd.length_le
  have ahead : (cursor.reached rest).Ahead cursor := by
    refine ⟨rfl, ?_, ?_⟩ <;> simp only [Cursor.reached, advance] <;> omega
  have stays : (cursor.reached rest).Inside := ⟨Int.le_trans start ahead.forward, ahead.within⟩
  exact ⟨ahead, (stream_reached inside.isUnreadable_eq isEnd).2.symm.trans stays.stream_eq⟩

/-- What a run reaches, whether it has a value or not. -/
theorem ahead_of_run (inside : cursor.Inside) {α : Type} {parser : Parser α}
    (forward : parser.Forward) {reached : Cursor} {value : Option α}
    (answers : cursor.run parser = .ok (reached, value)) :
    reached.Ahead cursor ∧
      (parser cursor.stream).rest? = some (cursor.source.drop reached.offset.toNat) := by
  rw [run_eq_answer inside.isUnreadable_eq] at answers
  cases replies : parser cursor.stream with
  | success value rest =>
      rw [replies] at answers
      cases answers
      have moved := inside.reached (forward.of_success replies)
      exact ⟨moved.1, congrArg some moved.2⟩
  | failure rest =>
      rw [replies] at answers
      cases answers
      have moved := inside.reached (forward.of_failure replies)
      exact ⟨moved.1, congrArg some moved.2⟩
  | fault cause =>
      rw [replies] at answers
      cases answers

end Inside

/-- Inside its source a position moves forward only and stays in it, whatever parser is
built from the combinators and whether it succeeds or gives up; what is left over is the
source from the new position on.  The same holds for every pattern, under any
definitions. -/
theorem run_moves_forward {cursor : Cursor} (inside : cursor.Inside) :
    (forall (α : Type) (parser : Parser α), parser.Built ->
      forall reached value, cursor.run parser = .ok (reached, value) ->
        reached.source = cursor.source ∧ cursor.offset ≤ reached.offset ∧
          reached.offset ≤ cursor.source.length ∧
          (parser (cursor.source.drop cursor.offset.toNat)).rest? =
            some (cursor.source.drop reached.offset.toNat)) ∧
    (forall definitions depth (pattern : Pattern) reached value,
      pattern.run definitions depth cursor = .ok (reached, value) ->
        reached.source = cursor.source ∧ cursor.offset ≤ reached.offset ∧
          reached.offset ≤ cursor.source.length) := by
  constructor
  · intro α parser built reached value answers
    rcases inside.ahead_of_run built.forward answers with ⟨ahead, left⟩
    rw [inside.stream_eq] at left
    exact ⟨ahead.source, ahead.forward, ahead.within, left⟩
  · intro definitions depth pattern reached value answers
    rw [Pattern.run, inside.isUnreadable_eq, if_neg Bool.false_ne_true] at answers
    have built := pattern.parser_built definitions depth
    rcases inside.ahead_of_run built.forward answers with ⟨ahead, _⟩
    exact ⟨ahead.source, ahead.forward, ahead.within⟩

/-- A digit in any number of round brackets. -/
def bracketedDigit : Parser Char :=
  fun text => Parser.resolved
    (fun inner => (inner.between (Parser.char '(') (Parser.char ')')).orElse Parser.digit)
    (text.length + 1) text

theorem built_bracketedDigit : bracketedDigit.Built := by
  refine .deferred (fun times => .resolved (fun inner built => ?_) times)
    fun text => ⟨text.length + 1, rfl⟩
  exact .orElse (.between built (.char '(') (.char ')')) (.satisfy _)

/-- From the second character of a source on, a success and a failure that has read
something. -/
theorem run_moves_forward_brackets :
    (⟨"x((7))+".toList, 1⟩ : Cursor).Inside ∧ bracketedDigit.Built ∧
    (⟨"x((7))+".toList, 1⟩ : Cursor).run bracketedDigit =
      .ok (⟨"x((7))+".toList, 6⟩, some '7') ∧
    ((1 : Int) ≤ 6 ∧ (6 : Int) ≤ 7 ∧
      (bracketedDigit "((7))+".toList).rest? = some "+".toList) ∧
    (⟨"x((7)+".toList, 1⟩ : Cursor).run
        (bracketedDigit.between (Parser.char '(') (Parser.char ')')) =
      .ok (⟨"x((7)+".toList, 5⟩, none) ∧
    (1 : Int) ≤ 5 ∧ (5 : Int) ≤ 6 := by
  have inside : (⟨"x((7))+".toList, 1⟩ : Cursor).Inside := ⟨by decide, by decide⟩
  have alsoInside : (⟨"x((7)+".toList, 1⟩ : Cursor).Inside := ⟨by decide, by decide⟩
  have succeeds : (⟨"x((7))+".toList, 1⟩ : Cursor).run bracketedDigit =
      .ok (⟨"x((7))+".toList, 6⟩, some '7') := by decide +kernel
  have fails : (⟨"x((7)+".toList, 1⟩ : Cursor).run
        (bracketedDigit.between (Parser.char '(') (Parser.char ')')) =
      .ok (⟨"x((7)+".toList, 5⟩, none) := by decide +kernel
  have builtBetween : (bracketedDigit.between (Parser.char '(') (Parser.char ')')).Built :=
    .between built_bracketedDigit (.char '(') (.char ')')
  rcases (run_moves_forward inside).1 Char bracketedDigit built_bracketedDigit _ _ succeeds with
    ⟨_, ahead, within, left⟩
  rcases (run_moves_forward alsoInside).1 Char _ builtBetween _ _ fails with
    ⟨_, alsoAhead, alsoWithin, _⟩
  exact ⟨inside, built_bracketedDigit, succeeds, ⟨ahead, within, left⟩, fails, alsoAhead,
    alsoWithin⟩

end Cursor

end SequenceCalculator
