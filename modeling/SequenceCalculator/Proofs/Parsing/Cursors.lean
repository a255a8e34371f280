import Mathlib.Data.List.Forall2
import SequenceCalculator.Parsing.Reader
import SequenceCalculator.Proofs.Parsing.Repetition

namespace SequenceCalculator

/-!
# Parsers of texts are readers of positions

The combinators on positions and the ones on texts are two families with the same
structure.  A position where a character can be looked at shows a text, and a position
that has been reached shows the part of it that is left.  So each combinator on positions
answers what the combinator on texts replies, with the position in place of the rest,
provided that the parts it is made of do.

In particular the loop of a repetition, which compares offsets, is the repetition that
compares the lengths of the texts that are left, and the bound that both carry is never
reached.
-/

namespace Cursor

variable {cursor : Cursor} {α : Type}

/-!
## Positions and what they show
-/

/-- In front of the source the characters are counted from its end, so what is shown is
an end of the source written twice. -/
theorem stream_eq_drop (readable : cursor.isUnreadable = false) :
    cursor.stream =
      (cursor.source ++ cursor.source).drop (cursor.offset + cursor.source.length).toNat := by
  rw [isUnreadable, decide_eq_false_iff_not] at readable
  rw [stream, unparsed, Text.dropTo, Text.position]
  by_cases before : cursor.offset < 0
  · rw [if_pos before, if_pos before, List.drop_append_of_le_length (by omega)]
  · have whole : (cursor.offset + cursor.source.length).toNat =
        cursor.source.length + cursor.offset.toNat := by omega
    rw [if_neg before, if_neg before, whole, ← List.drop_drop, List.drop_left]
    by_cases within : cursor.offset.toNat ≤ cursor.source.length
    · rw [Nat.min_eq_left within]
    · rw [Nat.min_eq_right (by omega), List.drop_length, List.drop_of_length_le (by omega)]

theorem length_stream (readable : cursor.isUnreadable = false) :
    cursor.stream.length = cursor.remaining.toNat := by
  have front := readable
  rw [isUnreadable, decide_eq_false_iff_not] at front
  rw [stream_eq_drop readable, List.length_drop, List.length_append, remaining]
  omega

theorem isEmpty_iff (readable : cursor.isUnreadable = false) :
    cursor.isEmpty = true ↔ cursor.stream = [] := by
  rw [← List.length_eq_zero_iff, length_stream readable, isEmpty, decide_eq_true_iff]
  omega

theorem head_eq (readable : cursor.isUnreadable = false) {first : Char} {rest : Text}
    (shows : cursor.stream = first :: rest) : cursor.head = .ok first := by
  have front := readable
  rw [isUnreadable, decide_eq_false_iff_not] at front
  have found : (cursor.source ++ cursor.source)[
      (cursor.offset + cursor.source.length).toNat]? = some first := by
    rw [← List.head?_drop, ← stream_eq_drop readable, shows, List.head?_cons]
  unfold head
  by_cases before : cursor.offset < 0
  · rw [List.getElem?_append_left (by omega)] at found
    simp only [if_pos before, found]
    rw [if_neg (by omega)]
  · rw [List.getElem?_append_right (by omega), show (cursor.offset + cursor.source.length).toNat -
      cursor.source.length = cursor.offset.toNat by omega] at found
    simp only [if_neg before, found]

/-- The position that is reached shows what is left. -/
theorem stream_reached (readable : cursor.isUnreadable = false) {rest : Text}
    (isEnd : rest <:+ cursor.stream) :
    (cursor.reached rest).isUnreadable = false ∧ (cursor.reached rest).stream = rest := by
  have front := readable
  rw [isUnreadable, decide_eq_false_iff_not] at front
  have shorter := isEnd.length_le
  have stays : (cursor.reached rest).isUnreadable = false := by
    rw [isUnreadable, decide_eq_false_iff_not]
    simp only [reached, advance]
    omega
  refine ⟨stays, ?_⟩
  have steps : ((cursor.reached rest).offset + (cursor.reached rest).source.length).toNat =
      (cursor.offset + cursor.source.length).toNat + (cursor.stream.length - rest.length) := by
    simp only [reached, advance]
    omega
  rw [stream_eq_drop stays, steps, ← List.drop_drop]
  change ((cursor.source ++ cursor.source).drop _).drop _ = rest
  rw [← stream_eq_drop readable]
  exact (List.suffix_iff_eq_drop.mp isEnd).symm

@[simp] theorem reached_stream (cursor : Cursor) : cursor.reached cursor.stream = cursor := by
  simp [reached, advance]

/-- Where a position has been reached, others are reached as from where it started. -/
theorem reached_reached (readable : cursor.isUnreadable = false) {rest : Text}
    (isEnd : rest <:+ cursor.stream) (last : Text) :
    (cursor.reached rest).reached last = cursor.reached last := by
  have shows := congrArg List.length (stream_reached readable isEnd).2
  simp only [reached, advance, Cursor.mk.injEq, true_and] at shows ⊢
  omega

theorem reached_offset_eq_iff (rest : Text) :
    (cursor.reached rest).offset = cursor.offset ↔ rest.length = cursor.stream.length := by
  simp only [reached, advance]
  omega

/-- The answer at a position to what a parser replies to the text it shows. -/
def answer (cursor : Cursor) : Reply α -> Except Fault (Cursor × Option α)
  | .success value rest => .ok (cursor.reached rest, some value)
  | .failure rest => .ok (cursor.reached rest, none)
  | .fault fault => .error fault

theorem run_eq_answer (readable : cursor.isUnreadable = false) (parser : Parser α) :
    cursor.run parser = cursor.answer (parser cursor.stream) := by
  rw [run, readable, if_neg Bool.false_ne_true]
  cases parser cursor.stream <;> rfl

theorem answer_reached (readable : cursor.isUnreadable = false) {rest : Text}
    (isEnd : rest <:+ cursor.stream) (reply : Reply α) :
    (cursor.reached rest).answer reply = cursor.answer reply := by
  cases reply <;> simp only [answer, reached_reached readable isEnd]

theorem run_reached (readable : cursor.isUnreadable = false) {rest : Text}
    (isEnd : rest <:+ cursor.stream) (parser : Parser α) :
    (cursor.reached rest).run parser = cursor.answer (parser rest) := by
  rcases stream_reached readable isEnd with ⟨stays, shows⟩
  rw [run_eq_answer stays, shows, answer_reached readable isEnd]

end Cursor

/-- To match a text at once is to match it character by character and, where it does not
match, to go back. -/
theorem Parser.symbol_cons (head : Char) (tail text : Text) :
    symbol (head :: tail) text =
      match (char head).bind (fun character => (symbol tail).map (character :: ·)) text with
      | .failure _ => .failure text
      | reply => reply := by
  cases text with
  | nil => rfl
  | cons first rest =>
      by_cases same : first = head
      · subst same
        by_cases starts : tail.isPrefixOf rest = true
        · simp [symbol, bind, map, char, satisfy, starts]
        · simp [symbol, bind, map, char, satisfy, starts]
      · simp [symbol, bind, char, satisfy, same, Ne.symm same]

/-- A reader answers what a parser replies, wherever a character can be looked at. -/
structure Simulates {α : Type} (reader : Reader α) (parser : Parser α) : Prop where
  forward : parser.Forward
  same : forall cursor, cursor.isUnreadable = false -> reader cursor = cursor.run parser

namespace Simulates

open Cursor

variable {α β γ : Type} {reader alternative : Reader α} {parser other : Parser α}

theorem answers (simulates : Simulates reader parser) {cursor : Cursor}
    (readable : cursor.isUnreadable = false) :
    reader cursor = cursor.answer (parser cursor.stream) := by
  rw [simulates.same cursor readable, run_eq_answer readable]

/-- What is left of the text is shown by the position that was reached. -/
theorem answers_reached (simulates : Simulates reader parser) {cursor : Cursor}
    (readable : cursor.isUnreadable = false) {rest : Text} (isEnd : rest <:+ cursor.stream) :
    reader (cursor.reached rest) = cursor.answer (parser rest) := by
  rw [simulates.same _ (stream_reached readable isEnd).1, run_reached readable isEnd]

/-- It is enough to compare the answers. -/
theorem of_answers (forward : parser.Forward)
    (same : forall cursor, cursor.isUnreadable = false ->
      reader cursor = cursor.answer (parser cursor.stream)) : Simulates reader parser := by
  refine ⟨forward, ?_⟩
  intro cursor readable
  rw [same cursor readable, run_eq_answer readable]

/-!
## One lemma for each combinator
-/

theorem pure (value : α) : Simulates (Reader.pure value) (Parser.pure value) := by
  refine of_answers (.pure value) fun cursor _ => ?_
  simp only [Reader.pure, Parser.pure, answer, reached_stream]

theorem fail : Simulates (Reader.fail : Reader α) Parser.fail := by
  refine of_answers .fail fun cursor _ => ?_
  simp only [Reader.fail, Parser.fail, answer, reached_stream]

theorem abort (cause : Fault) : Simulates (Reader.abort cause : Reader α) (Parser.abort cause) :=
  of_answers (.abort cause) fun _ _ => rfl

theorem satisfy (test : Char -> Bool) :
    Simulates (Reader.satisfy test) (Parser.satisfy test) := by
  refine of_answers (.satisfy test) fun cursor readable => ?_
  have empty := isEmpty_iff readable
  have back := cursor.reached_stream
  cases shows : cursor.stream with
  | nil =>
      rw [shows] at back
      simp only [Reader.satisfy, if_pos (empty.mpr shows), Parser.satisfy, answer, back]
  | cons first rest =>
      have something : ¬ cursor.isEmpty = true := by
        rw [empty, shows]
        exact List.cons_ne_nil _ _
      have next : cursor.reached rest = cursor.advance 1 := by
        rw [reached, shows, List.length_cons]
        congr 1
        omega
      rw [shows] at back
      simp only [Reader.satisfy, if_neg something, head_eq readable shows, Parser.satisfy]
      split <;> simp only [answer, next, back]

theorem char (character : Char) : Simulates (Reader.char character) (Parser.char character) :=
  satisfy _

theorem endOfText : Simulates Reader.endOfText Parser.endOfText := by
  refine of_answers .endOfText fun cursor readable => ?_
  have empty := isEmpty_iff readable
  have back := cursor.reached_stream
  rw [Reader.endOfText]
  split
  · next nothing =>
      rw [empty.mp nothing] at back
      rw [empty.mp nothing, Parser.endOfText, answer, back]
  · next something =>
      cases shows : cursor.stream with
      | nil => exact absurd (empty.mpr shows) something
      | cons first rest =>
          rw [shows] at back
          rw [Parser.endOfText, answer, back]

theorem map (simulates : Simulates reader parser) (change : α -> β) :
    Simulates (reader.map change) (parser.map change) := by
  refine of_answers (simulates.forward.map change) fun cursor readable => ?_
  rw [Reader.map, simulates.answers readable, Parser.map]
  cases parser cursor.stream <;> rfl

theorem mapTo (simulates : Simulates reader parser) (value : β) :
    Simulates (reader.mapTo value) (parser.mapTo value) :=
  simulates.map _

/-- The second reader starts from the position that the first one has reached. -/
theorem bind {next : α -> Reader β} {after : α -> Parser β} (simulates : Simulates reader parser)
    (simulatesNext : forall value, Simulates (next value) (after value)) :
    Simulates (reader.bind next) (parser.bind after) := by
  refine of_answers (simulates.forward.bind fun value => (simulatesNext value).forward)
    fun cursor readable => ?_
  rw [Reader.bind, simulates.answers readable, Parser.bind]
  cases replies : parser cursor.stream with
  | success value rest =>
      exact (simulatesNext value).answers_reached readable (simulates.forward.of_success replies)
  | failure rest => rfl
  | fault cause => rfl

/-- The alternative starts where the first one has started. -/
theorem orElse (simulates : Simulates reader parser) (alsoSimulates : Simulates alternative other) :
    Simulates (reader.orElse alternative) (parser.orElse other) := by
  refine of_answers (simulates.forward.orElse alsoSimulates.forward) fun cursor readable => ?_
  rw [Reader.orElse, simulates.answers readable, Parser.orElse]
  cases parser cursor.stream with
  | success value rest => rfl
  | failure rest => exact alsoSimulates.answers readable
  | fault cause => rfl

/-- The alternatives are tried in order.  The induction is on their list, from the front,
so that what has been tried before is kept. -/
theorem firstOf {readers : List (Reader α)} {parsers : List (Parser α)}
    (each : List.Forall₂ Simulates readers parsers) :
    Simulates (Reader.firstOf readers) (Parser.firstOf parsers) := by
  have goesOn : forall (before : Reader α) (first : Parser α), Simulates before first ->
      Simulates (readers.foldl Reader.orElse before) (parsers.foldl Parser.orElse first) := by
    induction each with
    | nil => exact fun _ _ simulates => simulates
    | cons simulates _ inductionHypothesis =>
        exact fun _ _ before => inductionHypothesis _ _ (before.orElse simulates)
  exact goesOn _ _ fail

/-- A symbol goes back to where its first character stood, however much of it was there. -/
theorem symbol (literal : Text) : Simulates (Reader.symbol literal) (Parser.symbol literal) := by
  induction literal with
  | nil =>
      refine of_answers (.symbol []) fun cursor _ => ?_
      simp [Reader.symbol, Reader.pure, Parser.symbol, answer]
  | cons head tail inductionHypothesis =>
      refine of_answers (.symbol _) fun cursor readable => ?_
      have matched := ((char head).bind fun character =>
        inductionHypothesis.map (character :: ·)).answers readable
      simp only [Reader.symbol, matched, Parser.symbol_cons]
      cases (Parser.char head).bind (fun character => (Parser.symbol tail).map (character :: ·))
          cursor.stream with
      | success value rest => rfl
      | failure rest => simp only [answer, reached_stream]
      | fault cause => rfl

/-- The loop adds its values to the ones that were read before.  Whether the offset has
changed says whether something was read. -/
theorem manyUpTo (simulates : Simulates reader parser) (bound : Nat) (values : List α) :
    Simulates (reader.manyUpTo bound values) ((parser.manyUpTo bound).map (values ++ ·)) := by
  refine of_answers ((simulates.forward.manyUpTo bound).map _) fun cursor readable => ?_
  induction bound generalizing values cursor with
  | zero => simp [Reader.manyUpTo, Parser.manyUpTo, Parser.map, answer]
  | succ bound inductionHypothesis =>
      rw [Reader.manyUpTo, simulates.answers readable, Parser.map_eq, Parser.manyUpTo]
      cases replies : parser cursor.stream with
      | failure rest => simp [answer, Reply.map]
      | fault cause => rfl
      | success value rest =>
          have isEnd := simulates.forward.of_success replies
          rcases stream_reached readable isEnd with ⟨stays, shows⟩
          simp only [answer, reached_offset_eq_iff]
          by_cases nothingRead : rest.length = cursor.stream.length
          · simp only [if_pos nothingRead, Reply.map]
          · have later := inductionHypothesis (values ++ [value]) (cursor.reached rest) stays
            rw [shows, answer_reached readable isEnd, Parser.map_eq] at later
            simp only [if_neg nothingRead, later, Parser.map_eq]
            cases parser.manyUpTo bound rest <;> simp [Reply.map, answer]

theorem manyFrom (simulates : Simulates reader parser) (values : List α) :
    Simulates (reader.manyFrom values) (parser.many.map (values ++ ·)) := by
  refine of_answers (simulates.forward.many.map _) fun cursor readable => ?_
  rw [Reader.manyFrom, ← length_stream readable,
    (simulates.manyUpTo _ values).answers readable]
  rfl

theorem many (simulates : Simulates reader parser) : Simulates reader.many parser.many := by
  refine of_answers simulates.forward.many fun cursor readable => ?_
  rw [Reader.many, (simulates.manyFrom []).answers readable, Parser.map_eq]
  cases parser.many cursor.stream <;> rfl

/-- One round of the loop, without a bound: a failed attempt ends it in front of the
attempt, an offset that stays ends it behind, and otherwise it goes on from the position
reached. -/
theorem manyFrom_eq (simulates : Simulates reader parser) {cursor : Cursor}
    (readable : cursor.isUnreadable = false) (values : List α) :
    reader.manyFrom values cursor =
      match reader cursor with
      | .ok (_, none) => .ok (cursor, some values)
      | .error fault => .error fault
      | .ok (place, some value) =>
          if place.offset = cursor.offset then .ok (place, some (values ++ [value]))
          else reader.manyFrom (values ++ [value]) place := by
  rw [Reader.manyFrom, Reader.manyUpTo, simulates.answers readable]
  cases replies : parser cursor.stream with
  | failure rest => rfl
  | fault cause => rfl
  | success value rest =>
      have isEnd := simulates.forward.of_success replies
      simp only [answer, reached_offset_eq_iff]
      by_cases nothingRead : rest.length = cursor.stream.length
      · simp only [if_pos nothingRead]
      · have shorter := isEnd.length_le
        have enough : rest.length < cursor.remaining.toNat := by
          rw [← length_stream readable]
          omega
        simp only [if_neg nothingRead]
        rw [(simulates.manyUpTo _ _).answers_reached readable isEnd,
          (simulates.manyFrom _).answers_reached readable isEnd, Parser.map_eq, Parser.map_eq,
          simulates.forward.manyUpTo_eq enough]

/-- The last attempt of a repetition has read a character and goes back to where it
started. -/
example : (Reader.symbol ['a', 'b']).many ⟨"xababa".toList, 1⟩ =
    .ok (⟨"xababa".toList, 5⟩, some [['a', 'b'], ['a', 'b']]) := by
  rfl

theorem skipLeft {next : Reader β} {after : Parser β} (simulates : Simulates reader parser)
    (simulatesNext : Simulates next after) :
    Simulates (reader.skipLeft next) (parser.skipLeft after) :=
  simulates.bind fun _ => simulatesNext

theorem skipRight {next : Reader β} {after : Parser β} (simulates : Simulates reader parser)
    (simulatesNext : Simulates next after) :
    Simulates (reader.skipRight next) (parser.skipRight after) :=
  simulates.bind fun value => simulatesNext.mapTo value

theorem atLeastOne (simulates : Simulates reader parser) :
    Simulates reader.atLeastOne parser.atLeastOne :=
  simulates.bind fun _ => simulates.many.map _

theorem delimitedBy {delimiter : Reader β} {separator : Parser β}
    (simulates : Simulates reader parser) (simulatesDelimiter : Simulates delimiter separator) :
    Simulates (reader.delimitedBy delimiter) (parser.delimitedBy separator) :=
  simulates.bind fun _ => (simulatesDelimiter.skipLeft simulates).many.map _

theorem between {left : Reader β} {right : Reader γ} {opening : Parser β} {closing : Parser γ}
    (simulates : Simulates reader parser) (simulatesLeft : Simulates left opening)
    (simulatesRight : Simulates right closing) :
    Simulates (reader.between left right) (parser.between opening closing) :=
  simulatesLeft.skipLeft (simulates.skipRight simulatesRight)

theorem token (simulates : Simulates reader parser) :
    Simulates reader.token (Parser.token parser) :=
  simulates.between (satisfy _).many (satisfy _).many

/-- A reader that is resolved anew on every call, for a parser that is.  At each position
both are settled when they have been resolved some number of times. -/
theorem deferred {readers : Nat -> Reader α} {parsers : Nat -> Parser α}
    (simulates : forall times, Simulates (readers times) (parsers times))
    (settled : forall cursor : Cursor, ∃ times, reader cursor = readers times cursor ∧
      parser cursor.stream = parsers times cursor.stream) : Simulates reader parser := by
  refine of_answers ?_ fun cursor readable => ?_
  · intro text rest left
    have shows : (⟨text, 0⟩ : Cursor).stream = text := by
      simp [stream, unparsed, Text.dropTo, Text.position]
    rcases settled ⟨text, 0⟩ with ⟨times, -, same⟩
    rw [shows] at same
    exact (simulates times).forward text rest (by rwa [← same])
  · rcases settled cursor with ⟨times, sameReader, sameParser⟩
    rw [sameReader, sameParser, (simulates times).answers readable]

end Simulates

end SequenceCalculator
