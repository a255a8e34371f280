import SequenceCalculator.Fault
import SequenceCalculator.Text.Blank

namespace SequenceCalculator

/-!
Parsers are functions from the remaining text to a reply.

A reply is a value with the text behind it, a failure with the text at which
the parser gave up, or a fault that ends the whole parse.  The text at which a
failed parser gave up may lie behind the text it was given; it is what a syntax
error points at.  Alternatives always restart from the text the first branch
was given, so every alternative is a full backtracking point.
-/

/-- What a parser makes of a text. -/
inductive Reply (α : Type) where
  /-- The parser recognised a value; the rest is still to be read. -/
  | success (value : α) (rest : Text)
  /-- The parser gave up in front of the rest. -/
  | failure (rest : Text)
  /-- Reading cannot go on at all. -/
  | fault (fault : Fault)
deriving DecidableEq

/-- A parser of values of a type. -/
abbrev Parser (α : Type) := Text -> Reply α

namespace Parser

variable {α β : Type}

/-- Succeeds without reading. -/
def pure (value : α) : Parser α :=
  fun input => .success value input

/-- Fails without reading. -/
def fail : Parser α :=
  fun input => .failure input

/-- Ends the parse with a fault. -/
def abort (fault : Fault) : Parser α :=
  fun _ => .fault fault

/-- Runs a parser and then the one chosen by its value. -/
def bind (parser : Parser α) (next : α -> Parser β) : Parser β :=
  fun input =>
    match parser input with
    | .success value rest => next value rest
    | .failure rest => .failure rest
    | .fault fault => .fault fault

/-- Changes the value of a parser. -/
def map (parser : Parser α) (change : α -> β) : Parser β :=
  fun input =>
    match parser input with
    | .success value rest => .success (change value) rest
    | .failure rest => .failure rest
    | .fault fault => .fault fault

/-- Replaces the value of a parser. -/
def mapTo (parser : Parser α) (value : β) : Parser β :=
  parser.map fun _ => value

/-- Runs the alternative from the same text when the parser fails, however far
it got. -/
def orElse (parser alternative : Parser α) : Parser α :=
  fun input =>
    match parser input with
    | .success value rest => .success value rest
    | .failure _ => alternative input
    | .fault fault => .fault fault

/-- The first of several parsers that succeeds, tried in order from the same
text. -/
def firstOf (parsers : List (Parser α)) : Parser α :=
  parsers.foldl orElse fail

/-- At most a given number of repetitions, with the rules of `many`. -/
def manyUpTo (parser : Parser α) : Nat -> Parser (List α)
  | 0, input => .success [] input
  | bound + 1, input =>
      match parser input with
      | .failure _ => .success [] input
      | .fault fault => .fault fault
      | .success value rest =>
          if rest.length = input.length then .success [value] rest
          else map (manyUpTo parser bound) (value :: ·) rest

/-- Zero or more repetitions, as many as possible.  The repetition ends in front
of the first failed attempt, or behind the first success that reads nothing;
such a success still counts. -/
def many (parser : Parser α) : Parser (List α) :=
  fun input => parser.manyUpTo (input.length + 1) input

/-- Two parsers in a row; the value is the second one's. -/
def skipLeft (parser : Parser α) (next : Parser β) : Parser β :=
  parser.bind fun _ => next

/-- Two parsers in a row; the value is the first one's. -/
def skipRight (parser : Parser α) (next : Parser β) : Parser α :=
  parser.bind fun value => next.mapTo value

/-- One or more repetitions. -/
def atLeastOne (parser : Parser α) : Parser (List α) :=
  parser.bind fun first => parser.many.map (first :: ·)

/-- One or more repetitions with a delimiter between neighbours. -/
def delimitedBy (parser : Parser α) (delimiter : Parser β) : Parser (List α) :=
  parser.bind fun first => (delimiter.skipLeft parser).many.map (first :: ·)

/-- A parser between two others, keeping only its own value. -/
def between (parser : Parser α) {γ : Type} (left : Parser β) (right : Parser γ) :
    Parser α :=
  left.skipLeft (parser.skipRight right)

/-- One character that passes a test. -/
def satisfy (test : Char -> Bool) : Parser Char
  | [] => .failure []
  | character :: rest =>
      if test character then .success character rest
      else .failure (character :: rest)

/-- One given character. -/
def char (character : Char) : Parser Char :=
  satisfy (· == character)

/-- A given text.  A mismatch gives up in front of the whole text. -/
def symbol (literal : Text) : Parser Text :=
  fun input =>
    if literal.isPrefixOf input then .success literal (input.drop literal.length)
    else .failure input

/-- The end of the text. -/
def endOfText : Parser Unit
  | [] => .success () []
  | character :: rest => .failure (character :: rest)

/-- One blank. -/
def blank : Parser Char := satisfy Text.isBlank

/-- A parser with all blanks around it. -/
def token (parser : Parser α) : Parser α :=
  parser.between blank.many blank.many

/-- A given text with all blanks around it. -/
def keyword (literal : Text) : Parser Text :=
  token (symbol literal)

end Parser

end SequenceCalculator
