import SequenceCalculator.Grammar.Expression
import SequenceCalculator.Outcome
import SequenceCalculator.Tree.Normalize

namespace SequenceCalculator
namespace Grammar

/-!
Statements and programs.  Statements are normalized as they are read, and a
program or a single line has to be read to its end.
-/

open SequenceCalculator.Parser

section Statements

variable (depth : Nat)

/-- A declaration of a variable. -/
def declaration : Parser Node :=
  (keyword "var".toList).skipLeft
    ((name.skipRight (keyword "=".toList)).bind fun declared =>
      (expression depth).map fun value => .declare declared value)

/-- The output of a value. -/
def output : Parser Node :=
  (keyword "out".toList).skipLeft ((expression depth).map .out)

/-- The output of a string literal. -/
def printing : Parser Node :=
  (keyword "print".toList).skipLeft (string.map .print)

/-- A statement in normal form. -/
def statement : Parser Node :=
  (((declaration depth).orElse (output depth)).orElse printing).bind fun node =>
    ofExcept node.normalize

/-- A whole program: statements with any number of line ends between them. -/
def wholeProgram : Parser (List Node) :=
  ((statement depth).delimitedBy (char '\n').many).skipRight endOfText

/-- One statement and nothing else. -/
def singleStatement : Parser Node :=
  (statement depth).skipRight endOfText

end Statements

/-- Where a text stops being readable. -/
structure SyntaxError where
  /-- What could not be read. -/
  fragment : Text
  /-- How many characters lie in front of it. -/
  offset : Nat
deriving DecidableEq

/-- How deep expressions may be nested in texts from outside. -/
def nestingLimit : Nat := 500

/-- Reads a whole text with a parser. -/
def read {α : Type} (parser : Parser α) (text : Text) : Outcome SyntaxError α :=
  match parser text with
  | .success value _ => .success value
  | .failure rest => .failure ⟨rest, text.length - rest.length⟩
  | .fault fault => .fault fault

/-- The statements of a program. -/
def parseProgram (depth : Nat) (text : Text) : Outcome SyntaxError (List Node) :=
  read (wholeProgram depth) text

/-- The statement on a line. -/
def parseStatement (depth : Nat) (text : Text) : Outcome SyntaxError Node :=
  read (singleStatement depth) text

end Grammar
end SequenceCalculator
