import SequenceCalculator.Parsing.Parser
import SequenceCalculator.Text.Slice

namespace SequenceCalculator

/-!
Positions in a source text.

A cursor is a view of a parser's remaining text: it keeps the whole source and
says how many characters lie in front of the position.  A position in front of
the source counts from its end, and one behind it sees an empty rest.  Too far
in front of the source there is no character to look at, and looking is a fault.
-/

/-- A position in a source text. -/
structure Cursor where
  source : Text
  offset : Int
deriving DecidableEq

namespace Cursor

/-- The position some characters further on. -/
def advance (cursor : Cursor) (count : Int) : Cursor :=
  { cursor with offset := cursor.offset + count }

/-- How many characters are left to read. -/
def remaining (cursor : Cursor) : Int :=
  cursor.source.length - cursor.offset

/-- Whether nothing is left to read. -/
def isEmpty (cursor : Cursor) : Bool :=
  cursor.remaining <= 0

/-- The character at the position. -/
def head (cursor : Cursor) : Except Fault Char :=
  let index :=
    if cursor.offset < 0 then cursor.offset + cursor.source.length
    else cursor.offset
  if index < 0 then .error .outsideText
  else
    match cursor.source[index.toNat]? with
    | some character => .ok character
    | none => .error .outsideText

/-- The part of the source from the position on. -/
def unparsed (cursor : Cursor) : Text :=
  cursor.source.dropTo cursor.offset

/-- Whether the position lies so far in front of the source that no character is
there. -/
def isUnreadable (cursor : Cursor) : Bool :=
  cursor.offset < -(cursor.source.length : Int)

/-- The text that a parser started at the position reads.  In front of the
source it starts with the characters counted from the end. -/
def stream (cursor : Cursor) : Text :=
  if cursor.offset < 0 then
    cursor.unparsed ++ cursor.source
  else cursor.unparsed

/-- The position at which a given part of the stream is left to read. -/
def reached (cursor : Cursor) (rest : Text) : Cursor :=
  cursor.advance ((cursor.stream.length : Int) - rest.length)

/-- Runs a parser that begins by looking at a character.  The answer is the
position reached and the value, if there is one. -/
def run {α : Type} (cursor : Cursor) (parser : Parser α) :
    Except Fault (Cursor × Option α) :=
  if cursor.isUnreadable then .error .outsideText
  else
    match parser cursor.stream with
    | .success value rest => .ok (cursor.reached rest, some value)
    | .failure rest => .ok (cursor.reached rest, none)
    | .fault fault => .error fault

end Cursor

end SequenceCalculator
