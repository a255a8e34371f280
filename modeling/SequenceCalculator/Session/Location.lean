import SequenceCalculator.Grammar.Program
import SequenceCalculator.Report.Notice
import SequenceCalculator.Text.Blank
import SequenceCalculator.Text.Slice

namespace SequenceCalculator

/-!
Lines of source text: which line a position lies on, and whether a typed line
is complete.
-/

/-- A position in a text, given by its line. -/
structure Location where
  /-- The line, without its end. -/
  line : Text
  /-- How many lines lie in front of it. -/
  index : Nat
  /-- How many characters of the line lie in front of the position. -/
  column : Nat
deriving DecidableEq

namespace Location

/-- Where the line of a position starts: behind the last line end in front. -/
def lineStart (text : Text) (offset : Nat) : Int :=
  text.findLast '\n' offset + 1

/-- Where the line of a position ends: at the first line end behind, or with the text. -/
def lineEnd (text : Text) (offset : Nat) : Int :=
  if text.find '\n' offset = -1 then text.length else text.find '\n' offset

/-- The line and column of a position. -/
def ofOffset (text : Text) (offset : Nat) : Location where
  line := text.between (lineStart text offset) (lineEnd text offset)
  index := (text.takeTo (lineStart text offset)).count '\n'
  column := (offset - lineStart text offset).toNat

/-- What is reported about a text that cannot be read beyond a position. -/
def draft (location : Location) (fragment : Text) : Notice.Draft :=
  if fragment.isEmpty then
    { template := "'\x7b\x7d' ends unexpectedly".toList
      subjects := [location.line]
      start := location.column }
  else
    { template := "unable to parse '\x7b1\x7d'".toList
      subjects := [location.line, fragment]
      start := location.column
      stop := location.line.length }

end Location

/-- A typed line without the blanks at its end, and whether it has to be joined
with the next one because more brackets are opened than closed. -/
def preprocessLine (line : Text) : Text × Bool :=
  let line := line.trimEnd
  (line, line.count ')' < line.count '(' || line.count '\x7d' < line.count '\x7b')

end SequenceCalculator
