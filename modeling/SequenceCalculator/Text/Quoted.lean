import SequenceCalculator.Text.Visible

namespace SequenceCalculator
namespace Text

/-!
Quoted texts.  A text is quoted with apostrophes, or with double quotes when it
contains an apostrophe and no double quote.  The quote in use, backslashes and
invisible characters are escaped.
-/

/-- The last hexadecimal digits of a number, most significant first. -/
def hexDigits (value : Nat) : (count : Nat) -> Text
  | 0 => []
  | count + 1 => hexDigits (value / 16) count ++ [Nat.digitChar (value % 16)]

/-- The escape of an invisible character, as short as its code point allows. -/
def codeEscape (code : Nat) : Text :=
  if code < 256 then '\\' :: 'x' :: hexDigits code 2
  else if code < 65536 then '\\' :: 'u' :: hexDigits code 4
  else '\\' :: 'U' :: hexDigits code 8

/-- One character of a quoted text. -/
def quotedCharacter (quote character : Char) : Text :=
  if character = quote || character = '\\' then ['\\', character]
  else if character = '\n' then ['\\', 'n']
  else if character = '\r' then ['\\', 'r']
  else if character = '\t' then ['\\', 't']
  else if isVisible character then [character]
  else codeEscape character.toNat

/-- The quote a text is written with. -/
def quoteMark (text : Text) : Char :=
  if text.contains '\'' && !text.contains '"' then '"' else '\''

/-- The quoted form of a text. -/
def quoted (text : Text) : Text :=
  let quote := quoteMark text
  quote :: (text.flatMap (quotedCharacter quote) ++ [quote])

end Text
end SequenceCalculator
