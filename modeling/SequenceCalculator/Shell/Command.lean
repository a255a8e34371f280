import SequenceCalculator.Text.Blank

namespace SequenceCalculator

/-!
Typed commands.  A line is a command when its first word names one, whatever
follows; every other line is a statement of the language.
-/

/-- What a typed line asks for. -/
inductive Command where
  /-- The line is blank. -/
  | nothing
  /-- A short introduction is wanted. -/
  | help
  /-- The conversation ends. -/
  | exit
  /-- The input has ended. -/
  | endOfInput
  /-- A statement, or a part of one, is to be run. -/
  | statement (line : Text)
deriving DecidableEq

namespace Command

/-- Whether a character belongs to a command word. -/
def isWordCharacter (character : Char) : Bool :=
  character.isAlphanum || character == '_'

/-- What a line asks for that starts with a given word. -/
def ofWord (word : Text) (line : Text) : Command :=
  if word = "help".toList then help
  else if word = "exit".toList then exit
  else if word = "EOF".toList then endOfInput
  else statement line

/-- What a line asks for.  A question mark asks for help, whatever follows. -/
def ofLine (line : Text) : Command :=
  match line.trim with
  | [] => nothing
  | '?' :: _ => help
  | line => ofWord (line.takeWhile isWordCharacter) line

end Command

end SequenceCalculator
