import SequenceCalculator.CommandLine.Misuse
import SequenceCalculator.Text.Digit

namespace SequenceCalculator
namespace CommandLine

/-!
What the arguments of a command line stand for, each on its own.

Options start with a dash.  A long name may be abbreviated and followed by an
equals sign and a value; a short name may be followed by further letters, with
or without an equals sign in front of them.  An argument that looks like a
negative number or contains a space is no option, and after the divider nothing
is.
-/

/-- What stands in the same argument as an option. -/
inductive Attached where
  /-- The option stands alone. -/
  | nothing
  /-- A value follows a long name and an equals sign. -/
  | value (text : Text)
  /-- Letters follow a short name. -/
  | letters (text : Text)
deriving DecidableEq

/-- What stands in the same argument as a short name: a value is letters too. -/
def Attached.afterShortName : Attached -> Attached
  | .value text => .letters text
  | other => other

/-- What an argument stands for. -/
inductive Argument where
  /-- It stands for itself. -/
  | plain (text : Text)
  /-- After it there are no options. -/
  | divider
  /-- It is an option. -/
  | flag (flag : Flag) (attached : Attached)
  /-- It has the form of an option, and there is no such option. -/
  | unknown (text : Text)
deriving DecidableEq

namespace Argument

/-- The divider between options and other arguments. -/
def dividerText : Text := "--".toList

/-- The parts in front of the first equals sign and behind it. -/
def splitValue (text : Text) : Text × Attached :=
  match text.dropWhile (· != '=') with
  | [] => (text, .nothing)
  | _ :: value => (text.takeWhile (· != '='), .value value)

/-- Whether a text consists of at least one decimal digit. -/
def isDecimal (text : Text) : Bool :=
  !text.isEmpty && text.all fun character => (Text.decimalValue? character).isSome

/-- Whether a text reads as a number with an optional fraction.  The digits in
front of the point may be missing. -/
def isNumber (text : Text) : Bool :=
  let whole := text.takeWhile (· != '.')
  match text.dropWhile (· != '.') with
  | [] => isDecimal whole
  | _ :: fraction => (whole.isEmpty || isDecimal whole) && isDecimal fraction

/-- Whether the text after a dash makes a negative number.  It may end a line. -/
def isNegative (text : Text) : Bool :=
  isNumber (if text.getLast? = some '\n' then text.dropLast else text)

/-- What an argument that starts with a dash stands for when it names no option. -/
def ofNameless (text : Text) : Argument :=
  if isNegative text.tail || text.contains ' ' then plain text else unknown text

/-- What an argument with two dashes stands for. -/
def ofLong (text : Text) : Except Misuse Argument :=
  let (name, attached) := splitValue text
  match Flag.all.filter fun flag => Text.startsWith name flag.longName with
  | [] => .ok (ofNameless text)
  | [matching] => .ok (flag matching attached)
  | several => .error (.ambiguous text several)

/-- What an argument with one dash and more than one character stands for. -/
def ofShort (text : Text) : Argument :=
  match Flag.ofName? (text.take 2) with
  | some found => flag found (.letters (text.drop 2))
  | none => ofNameless text

/-- What an argument in front of the divider stands for. -/
def ofText (text : Text) : Except Misuse Argument :=
  match text with
  | '-' :: second :: _ =>
      let (name, attached) := splitValue text
      match Flag.ofName? name with
      | some found =>
          .ok (flag found (if second = '-' then attached else attached.afterShortName))
      | none => if second = '-' then ofLong text else .ok (ofShort text)
  | _ => .ok (plain text)

/-- What all arguments stand for. -/
def ofTexts : List Text -> Except Misuse (List Argument)
  | [] => .ok []
  | text :: texts =>
      if text = dividerText then .ok (divider :: texts.map plain)
      else do
        let first <- ofText text
        let rest <- ofTexts texts
        return first :: rest

end Argument

end CommandLine
end SequenceCalculator
