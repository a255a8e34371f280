import SequenceCalculator.Number.Decimal
import SequenceCalculator.Parsing.Parser
import SequenceCalculator.Text.Letter

namespace SequenceCalculator
namespace Parser

/-!
Parsers of numerals.

A numeral may be made of any digits, but only decimal digits have a place
value: a numeral with another digit is recognised and then found unreadable,
which is a fault and not a failure.
-/

open Number

/-- Any character. -/
def anyCharacter : Parser Char := satisfy fun _ => true

/-- One digit of any kind. -/
def digit : Parser Char := satisfy Text.isDigit

/-- One letter. -/
def letter : Parser Char := satisfy Text.isLetter

/-- One or more digits. -/
def digits : Parser Text := digit.atLeastOne

/-- A minus sign, or nothing. -/
def sign : Parser Text := ((char '-').mapTo ['-']).orElse (pure [])

/-- Whether a character may stand around an integer numeral.  The four
information separators may not. -/
def surroundsInteger (character : Char) : Bool :=
  Text.isBlank character && !(28 <= character.toNat && character.toNat <= 31)

/-- Whether a character belongs to the digits of an integer numeral, which may
be separated by underscores. -/
def inInteger (character : Char) : Bool :=
  (Text.decimalValue? character).isSome || character == '_'

/-- Whether digits are separated one by one: behind an underscore, and at the
start, a digit has to follow. -/
def separated : (digitNeeded : Bool) -> Text -> Bool
  | digitNeeded, [] => !digitNeeded
  | digitNeeded, '_' :: rest => !digitNeeded && separated true rest
  | _, _ :: rest => separated false rest

/-- Reads an integer from a text that may have blanks around it, a sign in front
and single underscores between its digits.  Digits beyond the limit are refused
whatever follows them. -/
def readInteger (text : Text) : Except Fault Int :=
  let body := text.dropWhile surroundsInteger
  let (negative, unsigned) :=
    match body with
    | '-' :: rest => (true, rest)
    | '+' :: rest => (false, rest)
    | rest => (false, rest)
  let written := unsigned.takeWhile inInteger
  let digits := written.filter (· != '_')
  if !separated true written then .error (.notInteger text)
  else if Fault.digitLimit < digits.length then .error (.tooManyDigits digits.length)
  else if !((unsigned.dropWhile inInteger).dropWhile surroundsInteger).isEmpty then
    .error (.notInteger text)
  else
    match readInteger? negative digits with
    | some value => .ok value
    | none => .error (.notInteger text)

/-- The number a signed numeral denotes. -/
def convertDecimal (sign whole fraction : Text) : Except Fault Double :=
  match readDecimal? .double (sign == ['-']) whole fraction with
  | some value => .ok value
  | none =>
      .error (.notDecimal (sign ++ whole ++
        (if fraction.isEmpty then [] else '.' :: fraction)))

/-- Succeeds with a converted value, or ends the parse with the fault of its
conversion. -/
def ofExcept {α : Type} : Except Fault α -> Parser α
  | .ok value => pure value
  | .error fault => abort fault

/-- A whole number such as `42` or `-7`. -/
def integer : Parser Int :=
  sign.bind fun sign => digits.bind fun numeral =>
    ofExcept (readInteger (sign ++ numeral))

/-- A decimal such as `2`, `-2.78` or `0.5`.  The part before the point is
converted first, so it has to be readable even when a fraction follows. -/
def decimal : Parser Double :=
  sign.bind fun sign => digits.bind fun whole =>
    match convertDecimal sign whole [] with
    | .error fault => abort fault
    | .ok value =>
        (((char '.').skipLeft digits).bind fun fraction =>
          ofExcept (convertDecimal sign whole fraction)).orElse (pure value)

end Parser
end SequenceCalculator
