import SequenceCalculator.Text.Utf8

namespace SequenceCalculator

/-!
Faults: conditions that stop a run at once.

A mistake in a program is reported as an ordinary failure value.  A fault is
what remains: input that no failure value covers, such as a digit without a
place value, an infinite range bound, or a malformed message template.  Each
fault has a category and a message, which the outermost handler shows.
-/

/-- A condition that stops a run at once. -/
inductive Fault where
  /-- Input is nested deeper than the run allows. -/
  | tooDeep
  /-- A range bound is infinite. -/
  | infiniteBound
  /-- A range bound is not a number. -/
  | undefinedBound
  /-- A decimal numeral has a digit without a place value. -/
  | notDecimal (numeral : Text)
  /-- An integer numeral has a digit without a place value. -/
  | notInteger (numeral : Text)
  /-- An integer numeral is longer than the reader accepts. -/
  | tooManyDigits (count : Nat)
  /-- A text is to be repeated more often than can be counted. -/
  | uncountable
  /-- A first operand or another item of a list is missing. -/
  | missingOperand
  /-- A position outside of the text was read. -/
  | outsideText
  /-- The oldest result was asked for, and there is none. -/
  | noResult
  /-- A tree has no value. -/
  | notEvaluable (shown : Text)
  /-- A tree is not a statement. -/
  | notStatement (shown : Text)
  /-- A tree holds something that is not a tree. -/
  | notNormalizable (shown : Text)
  /-- Something without a required field stands where a name belongs. -/
  | noField (kind field : String)
  /-- A kind of value was asked for a field that it does not have. -/
  | noFieldOfKind (kind field : String)
  /-- A value of the wrong kind was used. -/
  | wrongValue (message : Text)
  /-- A template refers to a position that has no text. -/
  | noReplacement (index : Nat)
  /-- A template refers to a name. -/
  | noKey (name : Text)
  /-- A template is malformed. -/
  | badTemplate (message : String)
  /-- A report was made about an empty list of texts. -/
  | noSubject
  /-- A file is not valid text. -/
  | undecodable (place : Text.Undecodable)
  /-- A file name contains a zero character. -/
  | zeroInPath
deriving DecidableEq

namespace Fault

/-- The greatest number of digits of an integer numeral. -/
def digitLimit : Nat := 4300

/-- How many characters of an unreadable integer numeral are shown. -/
def shownLimit : Nat := 200

/-- The category a fault is reported under. -/
def category : Fault -> String
  | tooDeep => "RecursionError"
  | infiniteBound => "OverflowError"
  | undefinedBound => "ValueError"
  | notDecimal _ => "ValueError"
  | notInteger _ => "ValueError"
  | tooManyDigits _ => "ValueError"
  | uncountable => "OverflowError"
  | missingOperand => "IndexError"
  | outsideText => "IndexError"
  | noResult => "IndexError"
  | notEvaluable _ => "TypeError"
  | notStatement _ => "TypeError"
  | notNormalizable _ => "TypeError"
  | noField _ _ => "AttributeError"
  | noFieldOfKind _ _ => "AttributeError"
  | wrongValue _ => "TypeError"
  | noReplacement _ => "IndexError"
  | noKey _ => "KeyError"
  | badTemplate _ => "ValueError"
  | noSubject => "IndexError"
  | undecodable _ => "UnicodeDecodeError"
  | zeroInPath => "ValueError"

/-- The message a fault is reported with. -/
def message : Fault -> Text
  | tooDeep => "maximum recursion depth exceeded".toList
  | infiniteBound => "cannot convert float infinity to integer".toList
  | undefinedBound => "cannot convert float NaN to integer".toList
  | notDecimal numeral =>
      "could not convert string to float: ".toList ++ Text.quoted numeral
  | notInteger numeral =>
      "invalid literal for int() with base 10: ".toList ++
        (Text.quoted numeral).take shownLimit
  | tooManyDigits count =>
      s!"Exceeds the limit ({digitLimit} digits) for integer string conversion: ".toList ++
      s!"value has {count} digits; ".toList ++
      "use sys.set_int_max_str_digits() to increase the limit".toList
  | uncountable => "cannot fit 'int' into an index-sized integer".toList
  | missingOperand => "tuple index out of range".toList
  | outsideText => "string index out of range".toList
  | noResult => "pop from empty list".toList
  | notEvaluable shown => "cannot evaluate ".toList ++ shown
  | notStatement shown => "cannot evaluate statement ".toList ++ shown
  | notNormalizable shown => "cannot normalize ".toList ++ shown
  | noField kind field =>
      s!"'{kind}' object has no attribute '{field}'".toList
  | noFieldOfKind kind field =>
      s!"type object '{kind}' has no attribute '{field}'".toList
  | wrongValue message => message
  | noReplacement index =>
      s!"Replacement index {index} out of range for positional args tuple".toList
  | noKey name => Text.quoted name
  | badTemplate message => message.toList
  | noSubject => "list index out of range".toList
  | undecodable place => place.message
  | zeroInPath => "embedded null byte".toList

end Fault

end SequenceCalculator
