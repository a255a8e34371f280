import SequenceCalculator.Parsing.Numeral
import SequenceCalculator.Tree.Node

namespace SequenceCalculator
namespace Grammar

/-!
The tokens of the language.  Every token takes the blanks around it.
-/

open Number SequenceCalculator.Parser

/-- A number: an optional minus sign, digits and an optional fraction. -/
def number : Parser Node :=
  token (decimal.map fun value => .number (value.convert .single))

/-- A word: the longest run of letters. -/
def word : Parser Text :=
  token letter.atLeastOne

/-- A name. -/
def name : Parser Node :=
  word.map .name

/-- A character of a string literal. -/
def stringCharacter : Parser Char :=
  (letter.orElse digit).orElse blank

/-- A string literal: letters, digits and blanks between double quotes. -/
def string : Parser Node :=
  (token (stringCharacter.many.between (char '"') (char '"'))).map .string

/-- A bracket or another single character as a token. -/
def mark (character : Char) : Parser Char :=
  token (char character)

end Grammar
end SequenceCalculator
