import SequenceCalculator.Fault
import SequenceCalculator.Number.Decimal

namespace SequenceCalculator

/-!
Layouts: how a text is padded and shortened when it is put into a template.  A
layout such as `*^12.5` names a fill character, a side, a width and a greatest
length; the marks that only make sense for numbers are refused.
-/

/-- On which side a short text is padded. -/
inductive Side where
  | left
  | right
  | both
  | inside
deriving DecidableEq

/-- A layout, with the marks that a text refuses. -/
structure Layout where
  fill : Char
  side : Side
  sign : Option Char
  zeroMark : Bool
  alternate : Bool
  width : Nat
  separator : Option Char
  length : Option Nat
  type : Char

namespace Layout

/-- The side that an alignment character means. -/
def side? : Char -> Option Side
  | '<' => some .right
  | '>' => some .left
  | '^' => some .both
  | '=' => some .inside
  | _ => none

/-- The greatest number that a layout may mention. -/
def greatest : Nat := 0x7fffffffffffffff

/-- Reads decimal digits from the front of a text. -/
def digits (text : Text) : Except Fault (Option Nat × Text) :=
  let front := text.takeWhile fun character => (Text.decimalValue? character).isSome
  let rest := text.dropWhile fun character => (Text.decimalValue? character).isSome
  if front.isEmpty then .ok (none, rest)
  else
    let value := Number.ofPlaceValues (front.filterMap Text.decimalValue?)
    if greatest < value then
      .error (.badTemplate "Too many decimal digits in format string")
    else .ok (some value, rest)

/-- Reads one of some characters from the front of a text. -/
def oneOf (choices text : Text) : Option Char × Text :=
  match text with
  | [] => (none, [])
  | character :: rest =>
      if choices.contains character then (some character, rest)
      else (none, character :: rest)

/-- Reads the fill character and the side from the front of a layout. -/
def alignment (text : Text) : Option Char × Option Side × Text :=
  match text with
  | fill :: mark :: rest =>
      match side? mark with
      | some side => (some fill, some side, rest)
      | none =>
          match side? fill with
          | some side => (none, some side, mark :: rest)
          | none => (none, none, text)
  | [mark] =>
      match side? mark with
      | some side => (none, some side, [])
      | none => (none, none, text)
  | [] => (none, none, [])

/-- Reads a layout. -/
def parse (text : Text) : Except Fault Layout := do
  let (fill, side, rest) := alignment text
  let (sign, rest) := oneOf ['+', '-', ' '] rest
  let (zeroMark, rest) := oneOf ['z'] rest
  let (alternate, rest) := oneOf ['#'] rest
  let (zero, rest) := if fill.isNone then oneOf ['0'] rest else (none, rest)
  let (width, rest) <- digits rest
  let (separator, rest) := oneOf [',', '_'] rest
  if let (some separator, some next) := (separator, rest.head?) then
    if separator != next && [',', '_'].contains next then
      throw (.badTemplate "Cannot specify both ',' and '_'.")
  let (point, rest) := oneOf ['.'] rest
  let (length, rest) <- if point.isSome then digits rest else Except.ok (none, rest)
  if point.isSome && length.isNone then
    throw (.badTemplate "Format specifier missing precision")
  let type <- match rest with
    | [] => pure 's'
    | [type] => pure type
    | _ => throw (.badTemplate ("Invalid format specifier '" ++ String.ofList text ++
        "' for object of type 'str'"))
  return { fill := (fill.or zero).getD ' '
           side := side.getD .right
           sign := sign
           zeroMark := zeroMark.isSome
           alternate := alternate.isSome
           width := width.getD 0
           separator := separator
           length := length
           type := type }

/-- A type as a report shows it.  Only the visible characters of the narrow
alphabet are shown as they are. -/
def shownType (type : Char) : String :=
  if 32 < type.toNat && type.toNat < 128 then type.toString
  else "\\x" ++ String.ofList (Nat.toDigits 16 type.toNat)

/-- Whether a separator may stand between the digits of a number of some type. -/
def allowsSeparator (type separator : Char) : Bool :=
  "defgEG%F\x00".toList.contains type || separator == '_' && "boxX".toList.contains type

/-- Why no value at all accepts a layout. -/
def defect (layout : Layout) : Option String :=
  match layout.separator with
  | some separator =>
      if allowsSeparator layout.type separator then none
      else
        some ("Cannot specify '" ++ separator.toString ++ "' with '" ++
          shownType layout.type ++ "'.")
  | none => none

/-- Why a text refuses a layout that some value accepts. -/
def refusal (layout : Layout) : Option String :=
  if layout.type != 's' then
    some ("Unknown format code '" ++ shownType layout.type ++
      "' for object of type 'str'")
  else if layout.sign = some ' ' then
    some "Space not allowed in string format specifier"
  else if layout.sign.isSome then
    some "Sign not allowed in string format specifier"
  else if layout.zeroMark then
    some "Negative zero coercion (z) not allowed in string format specifier"
  else if layout.alternate then
    some "Alternate form (#) not allowed in string format specifier"
  else if layout.side = .inside then
    some "'=' alignment not allowed in string format specifier"
  else none

/-- Shortens and pads a text. -/
def arrange (layout : Layout) (text : Text) : Text :=
  let text := match layout.length with
    | some length => text.take length
    | none => text
  let missing := layout.width - text.length
  let before := match layout.side with
    | .left => missing
    | .both => missing / 2
    | _ => 0
  List.replicate before layout.fill ++ text ++
    List.replicate (missing - before) layout.fill

/-- Puts a text into the form that a written layout asks for. -/
def apply (written text : Text) : Except Fault Text := do
  if written.isEmpty then return text
  let layout <- parse written
  match layout.defect.or layout.refusal with
  | some message => throw (.badTemplate message)
  | none => return layout.arrange text

end Layout

end SequenceCalculator
