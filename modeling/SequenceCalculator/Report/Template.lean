import SequenceCalculator.Report.Facet
import SequenceCalculator.Report.Layout

namespace SequenceCalculator

/-!
Templates of messages.

A template is a text with fields between braces that are replaced by given
texts.  A field names the text it takes by position, or takes the next one when
it names none.  A doubled brace stands for itself, so a text in which all braces
are doubled is a template of itself.
-/

namespace Template

/-- How the fields without a position are numbered. -/
inductive Numbering where
  | undecided
  | automatic (next : Nat)
  | manual
deriving DecidableEq

/-- A field of a template, as written. -/
structure Field where
  name : Text
  conversion : Option Char
  layout : Text

/-- A fault of a template. -/
private def malformed {α : Type} (message : String) : Except Fault α :=
  .error (.badTemplate message)

/-- Reads the name of a field up to the character that ends it. -/
def fieldName : (bracketed : Bool) -> Text -> Except Fault (Text × Option Char × Text)
  | _, [] => .ok ([], none, [])
  | true, character :: rest => do
      let (name, mark, rest) <- fieldName (character != ']') rest
      return (character :: name, mark, rest)
  | false, character :: rest =>
      if character = '\x7b' then malformed "unexpected '\x7b' in field name"
      else if character = '\x7d' || character = ':' || character = '!' then
        .ok ([], some character, rest)
      else do
        let (name, mark, rest) <- fieldName (character = '[') rest
        return (character :: name, mark, rest)

/-- Reads a layout up to the brace that closes its field. -/
def fieldLayout : (opened : Nat) -> Text -> Except Fault (Text × Text)
  | _, [] => malformed "unmatched '\x7b' in format spec"
  | opened, character :: rest =>
      if character = '\x7d' && opened = 0 then .ok ([], rest)
      else do
        let opened :=
          if character = '\x7b' then opened + 1
          else if character = '\x7d' then opened - 1
          else opened
        let (layout, rest) <- fieldLayout opened rest
        return (character :: layout, rest)

/-- Reads a field behind its opening brace. -/
def field (text : Text) : Except Fault (Field × Text) := do
  let (name, mark, rest) <- fieldName false text
  match mark with
  | some '\x7d' => return (⟨name, none, []⟩, rest)
  | some ':' =>
      let (layout, rest) <- fieldLayout 0 rest
      return (⟨name, none, layout⟩, rest)
  | some '!' =>
      match rest with
      | [] => malformed "end of string while looking for conversion specifier"
      | conversion :: '\x7d' :: rest => return (⟨name, some conversion, []⟩, rest)
      | [_] => malformed "unmatched '\x7b' in format spec"
      | conversion :: ':' :: rest =>
          let (layout, rest) <- fieldLayout 0 rest
          return (⟨name, some conversion, layout⟩, rest)
      | _ => malformed "expected ':' after conversion specifier"
  | _ => malformed "expected '\x7d' before end of string"

/-- The position that a field names. -/
def position? (name : Text) : Except Fault (Option Nat) := do
  let (value, rest) <- Layout.digits name
  return if rest.isEmpty then value else none

/-- The position that a field takes, and the numbering behind it. -/
def take (numbering : Numbering) (named : Option Nat) : Except Fault (Nat × Numbering) :=
  match named, numbering with
  | none, .undecided => .ok (0, .automatic 1)
  | none, .automatic next => .ok (next, .automatic (next + 1))
  | none, .manual => malformed
      "cannot switch from manual field specification to automatic field numbering"
  | some _, .automatic _ => malformed
      "cannot switch from automatic field numbering to manual field specification"
  | some index, _ => .ok (index, .manual)

/-- Follows the accessors behind the name of a field. -/
def access (facet : Facet) : (bound : Nat) -> (accessors : Text) -> Except Fault Facet
  | 0, _ => .ok facet
  | _, [] => .ok facet
  | bound + 1, '.' :: rest => do
      let wanted := rest.takeWhile fun character =>
        character != '.' && character != '['
      if wanted.isEmpty then malformed "Empty attribute in format string"
      else access (← facet.get (String.ofList wanted)) bound (rest.drop wanted.length)
  | bound + 1, '[' :: rest => do
      let key := rest.takeWhile (· != ']')
      match rest.dropWhile (· != ']') with
      | [] => malformed "Missing ']' in format string"
      | _ :: rest =>
          if key.isEmpty then malformed "Empty attribute in format string"
          else access (← facet.item (← position? key)) bound rest
  | _, _ => malformed "Only '.' or '[' may follow ']' in format field specifier"

/-- What a field takes from the arguments. -/
def resolve (arguments : List Text) (numbering : Numbering) (name : Text) :
    Except Fault (Facet × Numbering) := do
  let first := name.takeWhile fun character => character != '.' && character != '['
  let accessors := name.dropWhile fun character => character != '.' && character != '['
  let named <- position? first
  if named.isNone && !first.isEmpty then throw (.noKey first)
  let (index, numbering) <- take numbering named
  match arguments[index]? with
  | none => throw (.noReplacement index)
  | some argument =>
      return (← access (.text argument) accessors.length accessors, numbering)

/-- Converts what a field takes before it is laid out.  The zero character asks
for no conversion. -/
def convert : Option Char -> Facet -> Except Fault Facet
  | none, facet => .ok facet
  | some '\x00', facet => .ok facet
  | some 's', facet => .ok (.text facet.shown)
  | some 'r', facet => .ok (.text facet.quoted)
  | some 'a', facet => .ok (.text (facet.quoted.flatMap fun character =>
      if character.toNat < 128 then [character] else Text.codeEscape character.toNat))
  | some other, _ =>
      if 32 < other.toNat && other.toNat < 127 then
        malformed ("Unknown conversion specifier " ++ other.toString)
      else
        malformed ("Unknown conversion specifier \\x" ++
          String.ofList (Nat.toDigits 16 other.toNat))

/-- Puts what a field takes into the form that a layout asks for. -/
def arrange (layout : Text) : Facet -> Except Fault Text
  | .text content => Layout.apply layout content
  | other =>
      if layout.isEmpty then .ok other.shown
      else
        .error (.wrongValue ("unsupported format string passed to " ++
          other.kindOf.name ++ ".__format__").toList)

/-- A way of filling templates. -/
abbrev Filler := Numbering -> Text -> Except Fault (Text × Numbering)

/-- Puts a text in front of what is filled in behind it. -/
def before (text : Text) (behind : Except Fault (Text × Numbering)) :
    Except Fault (Text × Numbering) := do
  let (filled, numbering) <- behind
  return (text ++ filled, numbering)

/-- The text of a field, whose layout is filled first when it has fields itself. -/
def fieldText (arguments : List Text) (inner : Filler) (numbering : Numbering)
    (written : Field) : Except Fault (Text × Numbering) := do
  let (facet, numbering) <- resolve arguments numbering written.name
  let facet <- convert written.conversion facet
  let (layout, numbering) <-
    if written.layout.contains '\x7b' then inner numbering written.layout
    else .ok (written.layout, numbering)
  return (← arrange layout facet, numbering)

/-- Fills a template that is at most as long as the bound, given a way to fill
the layouts inside. -/
def fillUpTo (arguments : List Text) (inner : Filler) : (bound : Nat) -> Filler
  | _, numbering, [] => .ok ([], numbering)
  | 0, numbering, _ => .ok ([], numbering)
  | bound + 1, numbering, character :: rest =>
      if character = '\x7b' then
        match rest with
        | [] => malformed "Single '\x7b' encountered in format string"
        | second :: behind =>
            if second = '\x7b' then
              before ['\x7b'] (fillUpTo arguments inner bound numbering behind)
            else do
              let (written, behind) <- field rest
              let (text, numbering) <- fieldText arguments inner numbering written
              before text (fillUpTo arguments inner bound numbering behind)
      else if character = '\x7d' then
        match rest with
        | [] => malformed "Single '\x7d' encountered in format string"
        | second :: behind =>
            if second = '\x7d' then
              before ['\x7d'] (fillUpTo arguments inner bound numbering behind)
            else malformed "Single '\x7d' encountered in format string"
      else before [character] (fillUpTo arguments inner bound numbering rest)

/-- Fills a template whose layouts are templates themselves, up to a depth. -/
def fillNested (arguments : List Text) : (depth : Nat) -> Filler
  | 0, _, _ => malformed "Max string recursion exceeded"
  | depth + 1, numbering, template =>
      fillUpTo arguments (fillNested arguments depth) template.length numbering template

/-- Fills a template with texts. -/
def fill (template : Text) (arguments : List Text) : Except Fault Text := do
  let (text, _) <- fillNested arguments 2 .undecided template
  return text

/-- Doubles every brace, so that the text is a template of itself. -/
def escape (text : Text) : Text :=
  text.flatMap fun character =>
    if character = '\x7b' || character = '\x7d' then [character, character]
    else [character]

end Template

end SequenceCalculator
