import SequenceCalculator.Number.Numeral
import SequenceCalculator.Parsing.Numeral
import SequenceCalculator.Text.Upper

namespace SequenceCalculator

/-!
Patterns: descriptions of parsers as data.

A pattern can be shown, stored and compared, and `Pattern.parser` gives the
parser it describes.  Patterns compute dynamic values, and the value `nothing`
stands for no value at all: a step that computes it fails, although the text
it has read stays read.
-/

open Number

/-- A value computed by a pattern. -/
inductive Datum where
  | nothing
  | text (value : Text)
  | integer (value : Int)
  | number (value : Double)
  | list (items : List Datum)

namespace Datum

/-- The name of a value's kind. -/
def kind : Datum -> String
  | .nothing => "NoneType"
  | .text _ => "str"
  | .integer _ => "int"
  | .number _ => "float"
  | .list _ => "list"

/-- A value as the text of one character. -/
def ofChar (character : Char) : Datum := .text [character]

/-- The integer that a value denotes. -/
def toInteger : Datum -> Except Fault Int
  | .text value => Parser.readInteger value
  | .integer value => .ok value
  | .number value => rangeBound value
  | other =>
      .error (.wrongValue (("int() argument must be a string, a bytes-like object " ++
        "or a real number, not ").toList ++ Text.quoted other.kind.toList))
where
  rangeBound : Double -> Except Fault Int
    | .nan => .error .undefinedBound
    | .infinite _ => .error .infiniteBound
    | value => .ok (value.truncate?.getD 0)

/-- The items of a list, or the characters of a text. -/
def items? : Datum -> Option (List Datum)
  | .list items => some items
  | .text value => some (value.map ofChar)
  | _ => none

/-- Joins a list of texts. -/
def joined (datum : Datum) : Except Fault Datum :=
  match datum.items? with
  | none => .error (.wrongValue "can only join an iterable".toList)
  | some items => do
      let texts <- items.zipIdx.mapM fun (item, index) =>
        match item with
        | .text value => Except.ok value
        | other =>
            .error (.wrongValue (s!"sequence item {index}: expected str instance, ".toList ++
              other.kind.toList ++ " found".toList))
      .ok (.text texts.flatten)

/-- A value added to itself. -/
def doubled : Datum -> Except Fault Datum
  | .nothing => .error (.wrongValue
      "unsupported operand type(s) for +: 'NoneType' and 'NoneType'".toList)
  | .text value => .ok (.text (value ++ value))
  | .integer value => .ok (.integer (value + value))
  | .number value => .ok (.number (value.add value))
  | .list items => .ok (.list (items ++ items))

end Datum

/-- A test on one character. -/
inductive CharacterTest where
  | digit
  | letter
  | blank
  | capital
  | vowel
  | always
  | never
deriving DecidableEq

/-- Whether a character passes a test. -/
def CharacterTest.holds : CharacterTest -> Char -> Bool
  | .digit => Text.isDigit
  | .letter => Text.isLetter
  | .blank => Text.isBlank
  | .capital => Text.isCapital
  | .vowel => fun character => "aeiou".toList.contains character
  | .always => fun _ => true
  | .never => fun _ => false

/-- A change of a value. -/
inductive Change where
  | toInteger
  | capitals
  | length
  | reverse
  | forget
  | wrap
deriving DecidableEq

/-- Applies a change. -/
def Change.apply : Change -> Datum -> Except Fault Datum
  | .toInteger, datum => do return .integer (← datum.toInteger)
  | .capitals, .text value => .ok (.text value.capitals)
  | .capitals, other => .error (.wrongValue
      ("descriptor 'upper' for 'str' objects doesn't apply to a ".toList ++
        Text.quoted other.kind.toList ++ " object".toList))
  | .length, datum =>
      match datum.items? with
      | some items => .ok (.integer items.length)
      | none => .error (.wrongValue ("object of type ".toList ++
          Text.quoted datum.kind.toList ++ " has no len()".toList))
  | .reverse, .text value => .ok (.text value.reverse)
  | .reverse, .list items => .ok (.list items.reverse)
  | .reverse, other => .error (.wrongValue (Text.quoted other.kind.toList ++
      " object is not subscriptable".toList))
  | .forget, _ => .ok .nothing
  | .wrap, datum => .ok (.list [datum])

/-- A continuation chosen by a value. -/
inductive Continuation where
  | sameCharacter
  | sameSymbol
  | twice
  | counted
  | fail
deriving DecidableEq

/-- A description of a parser. -/
inductive Pattern where
  | endOfText
  | anyCharacter
  | digit
  | letter
  | blank
  | digits
  | sign
  | integer
  | decimal
  | pure (value : Datum)
  | fail
  | char (literal : Text)
  | symbol (literal : Text)
  | satisfy (test : CharacterTest) (name : Text)
  | firstOf (alternatives : List Pattern)
  | map (pattern : Pattern) (change : Change)
  | mapTo (pattern : Pattern) (value : Datum)
  | bind (pattern : Pattern) (next : Continuation)
  | orElse (pattern alternative : Pattern)
  | many (pattern : Pattern)
  | atLeastOne (pattern : Pattern)
  | text (pattern : Pattern)
  | token (pattern : Pattern)
  | delimitedBy (pattern delimiter : Pattern)
  | between (pattern left right : Pattern)
  | skipLeft (pattern next : Pattern)
  | skipRight (pattern next : Pattern)
  | reference (name : Text)

namespace Pattern

/-- A parser that fails where it would succeed with no value. -/
def present (parser : Parser Datum) : Parser Datum :=
  parser.bind fun datum =>
    match datum with
    | .nothing => Parser.fail
    | value => Parser.pure value

/-- Changes a value by a step that may end the parse or compute no value. -/
def changed (parser : Parser Datum) (step : Datum -> Except Fault Datum) :
    Parser Datum :=
  present (parser.bind fun datum => Parser.ofExcept (step datum))

/-- A character equal to a text of length one; no character equals another. -/
def charParser (literal : Datum) : Parser Datum :=
  (Parser.satisfy fun character =>
    match literal with
    | .text [wanted] => character == wanted
    | _ => false).map Datum.ofChar

/-- The text a value spells: a text, a list of single characters, or zero, which
spells nothing.  A list of anything else spells no text, and other numbers have
no characters at all. -/
def spelled : Datum -> Except Fault (Option Text)
  | .text value => .ok (some value)
  | .list items => .ok (items.mapM fun item =>
      match item with
      | .text [character] => some character
      | _ => none)
  | .nothing => .ok (some [])
  | .integer value => if value = 0 then .ok (some []) else withoutCharacters "int"
  | .number value => if value.isZero then .ok (some []) else withoutCharacters "float"
where
  withoutCharacters (kind : String) : Except Fault (Option Text) :=
    .error (.wrongValue (Text.quoted kind.toList ++ " object is not subscriptable".toList))

/-- The greatest number of times that a text can be repeated. -/
def countLimit : Int := 0x7fffffffffffffff

/-- A letter repeated a number of times; none when the number is negative. -/
def repeated (count : Int) : Parser Datum :=
  if countLimit < count || count < -countLimit - 1 then Parser.abort .uncountable
  else fun input =>
    if input.length < count.toNat then .failure input
    else (Parser.symbol (List.replicate count.toNat 'x')).map Datum.text input

/-- The parser that follows a value. -/
def continuation : Continuation -> Datum -> Parser Datum
  | .sameCharacter, datum => charParser datum
  | .sameSymbol, datum =>
      match spelled datum with
      | .ok (some literal) => (Parser.symbol literal).map Datum.text
      | .ok none => Parser.fail
      | .error fault => Parser.abort fault
  | .twice, datum => present (Parser.ofExcept datum.doubled)
  | .counted, datum =>
      match datum.toInteger with
      | .ok count => repeated count
      | .error fault => Parser.abort fault
  | .fail, _ => Parser.fail

/-- A list of values as one value. -/
private def listed (parser : Parser (List Datum)) : Parser Datum :=
  parser.map Datum.list

mutual

/-- The parser a pattern describes.  References are looked up by name, at most
`depth` of them inside one another. -/
def parser (definitions : Text -> Option Pattern) (depth : Nat) :
    Pattern -> Parser Datum
  | .endOfText => Parser.endOfText.mapTo (.text [])
  | .anyCharacter => Parser.anyCharacter.map Datum.ofChar
  | .digit => Parser.digit.map Datum.ofChar
  | .letter => Parser.letter.map Datum.ofChar
  | .blank => Parser.blank.map Datum.ofChar
  | .digits => Parser.digits.map Datum.text
  | .sign => Parser.sign.map Datum.text
  | .integer => Parser.integer.map Datum.integer
  | .decimal => Parser.decimal.map Datum.number
  | .pure value => present (Parser.pure value)
  | .fail => Parser.fail
  | .char literal => charParser (.text literal)
  | .symbol literal => (Parser.symbol literal).map Datum.text
  | .satisfy test _ => (Parser.satisfy test.holds).map Datum.ofChar
  | .firstOf alternatives => Parser.firstOf (parsers definitions depth alternatives)
  | .map pattern change => changed (parser definitions depth pattern) change.apply
  | .mapTo pattern value =>
      present ((parser definitions depth pattern).mapTo value)
  | .bind pattern next =>
      (parser definitions depth pattern).bind (continuation next)
  | .orElse pattern alternative =>
      (parser definitions depth pattern).orElse (parser definitions depth alternative)
  | .many pattern => listed (parser definitions depth pattern).many
  | .atLeastOne pattern => listed (parser definitions depth pattern).atLeastOne
  | .text pattern => changed (parser definitions depth pattern) Datum.joined
  | .token pattern => (parser definitions depth pattern).token
  | .delimitedBy pattern delimiter =>
      listed ((parser definitions depth pattern).delimitedBy
        (parser definitions depth delimiter))
  | .between pattern left right =>
      (parser definitions depth pattern).between
        (parser definitions depth left) (parser definitions depth right)
  | .skipLeft pattern next =>
      (parser definitions depth pattern).skipLeft (parser definitions depth next)
  | .skipRight pattern next =>
      (parser definitions depth pattern).skipRight (parser definitions depth next)
  | .reference name =>
      match depth with
      | 0 => Parser.abort .tooDeep
      | depth + 1 =>
          match definitions name with
          | some pattern => fun input => parser definitions depth pattern input
          | none => Parser.abort (.noKey name)

/-- The parsers several patterns describe. -/
def parsers (definitions : Text -> Option Pattern) (depth : Nat) :
    List Pattern -> List (Parser Datum)
  | [] => []
  | pattern :: patterns =>
      parser definitions depth pattern :: parsers definitions depth patterns

end

/-- What a pattern is called: its own name, or the name of its outermost step. -/
def name : Pattern -> Text
  | .endOfText => "eof".toList
  | .anyCharacter => "any_char".toList
  | .digit => "digit".toList
  | .letter => "alpha".toList
  | .blank => "whitespace".toList
  | .pure _ => "pure".toList
  | .fail => "fail".toList
  | .firstOf [] => "fail".toList
  | .symbol [] => "pure".toList
  | .char literal => Text.quoted literal
  | .symbol literal => Text.quoted literal
  | .satisfy _ name => if name.isEmpty then "_satisfy".toList else name
  | .reference _ => "defer".toList
  | .sign => "_or".toList
  | .firstOf _ => "_or".toList
  | .orElse _ _ => "_or".toList
  | .digits => "_map".toList
  | .map _ _ => "_map".toList
  | .mapTo _ _ => "_map".toList
  | .text _ => "_map".toList
  | .many _ => "_many".toList
  | _ => "_bind".toList

/-- How a pattern is shown. -/
def label (pattern : Pattern) : Text :=
  "Parser(".toList ++ pattern.name ++ ")".toList

end Pattern

end SequenceCalculator
