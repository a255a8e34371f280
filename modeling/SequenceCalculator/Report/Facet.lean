import SequenceCalculator.Fault

namespace SequenceCalculator

/-!
Facets: what a field of a template may take from a text.

A field usually takes a whole text.  It may also take one of its characters, the
kind of value that a text is, or what is known about that kind: its name, its
description and the kinds above it.  A facet that is no text is shown as a
message shows such a value, and refuses every layout.
-/

/-- A kind of facet. -/
inductive FacetKind where
  | text
  | kind
  | kinds
  | nothing
  /-- The kind above all others. -/
  | anything
deriving DecidableEq

namespace FacetKind

/-- The name of a kind. -/
def name : FacetKind -> String
  | text => "str"
  | kind => "type"
  | kinds => "tuple"
  | nothing => "NoneType"
  | anything => "object"

/-- The kind above a kind. -/
def above? : FacetKind -> Option FacetKind
  | anything => none
  | _ => some anything

/-- The description of a kind. -/
def description? : FacetKind -> Option String
  | text => some ("str(object='') -> str\n" ++
      "str(bytes_or_buffer[, encoding[, errors]]) -> str\n\n" ++
      "Create a new string object from the given object. If encoding or\n" ++
      "errors is specified, then the object must expose a data buffer\n" ++
      "that will be decoded using the given encoding and error handler.\n" ++
      "Otherwise, returns the result of object.__str__() (if defined)\n" ++
      "or repr(object).\n" ++
      "encoding defaults to sys.getdefaultencoding().\n" ++
      "errors defaults to 'strict'.")
  | kind => some ("type(object) -> the object's type\n" ++
      "type(name, bases, dict, **kwds) -> a new type")
  | kinds => some ("Built-in immutable sequence.\n\n" ++
      "If no argument is given, the constructor returns an empty tuple.\n" ++
      "If iterable is specified the tuple is initialized from iterable's items.\n\n" ++
      "If the argument is a tuple, the return value is the same object.")
  | nothing => none
  | anything => some ("The base class of the class hierarchy.\n\n" ++
      "When called, it accepts no arguments and returns a new featureless\n" ++
      "instance that has no instance attributes and cannot be given any.\n")

/-- How a kind is shown. -/
def shown (known : FacetKind) : Text :=
  ("<class '" ++ known.name ++ "'>").toList

end FacetKind

/-- What a field takes from a text. -/
inductive Facet where
  | text (content : Text)
  | kind (known : FacetKind)
  | kinds (several : List FacetKind)
  | nothing
deriving DecidableEq

namespace Facet

/-- The kind of a facet. -/
def kindOf : Facet -> FacetKind
  | text _ => .text
  | kind _ => .kind
  | kinds _ => .kinds
  | nothing => .nothing

/-- A text that may be missing. -/
def ofText? : Option String -> Facet
  | some content => text content.toList
  | none => nothing

/-- What is known about every facet. -/
def common? (facet : Facet) : (wanted : String) -> Option Facet
  | "__class__" => some (kind facet.kindOf)
  | "__doc__" =>
      match facet with
      | kind known => some (ofText? known.description?)
      | other => some (ofText? other.kindOf.description?)
  | _ => none

/-- What is known about a kind. -/
def ofKind? (known : FacetKind) : (wanted : String) -> Option Facet
  | "__name__" => some (text known.name.toList)
  | "__qualname__" => some (text known.name.toList)
  | "__module__" => some (text "builtins".toList)
  | "__base__" =>
      match known.above? with
      | some above => some (kind above)
      | none => some nothing
  | "__bases__" => some (kinds known.above?.toList)
  | "__mro__" => some (kinds (known :: known.above?.toList))
  | _ => none

/-- What a facet has under a name. -/
def get? (facet : Facet) (wanted : String) : Option Facet :=
  (common? facet wanted).or
    (match facet with
     | kind known => ofKind? known wanted
     | _ => none)

/-- What a facet has under a name; a name it does not have is a fault. -/
def get (facet : Facet) (wanted : String) : Except Fault Facet :=
  match facet.get? wanted with
  | some found => .ok found
  | none =>
      match facet with
      | kind known => .error (.noFieldOfKind known.name wanted)
      | other => .error (.noField other.kindOf.name wanted)

/-- What a facet has at a position.  A key that is no position has no meaning. -/
def item (facet : Facet) (index? : Option Nat) : Except Fault Facet :=
  match facet, index? with
  | text content, some index =>
      match content[index]? with
      | some character => .ok (text [character])
      | none => .error .outsideText
  | text _, none =>
      .error (.wrongValue "string indices must be integers, not 'str'".toList)
  | kinds several, some index =>
      match several[index]? with
      | some known => .ok (kind known)
      | none => .error .missingOperand
  | kinds _, none =>
      .error (.wrongValue "tuple indices must be integers or slices, not str".toList)
  | kind known, _ =>
      .error (.wrongValue ("type '" ++ known.name ++ "' is not subscriptable").toList)
  | nothing, _ =>
      .error (.wrongValue "'NoneType' object is not subscriptable".toList)

/-- How a facet is shown. -/
def shown : Facet -> Text
  | text content => content
  | kind known => known.shown
  | kinds [only] => '(' :: only.shown ++ [',', ')']
  | kinds several => '(' :: Text.join ", ".toList (several.map FacetKind.shown) ++ [')']
  | nothing => "None".toList

/-- How a facet is quoted.  Only texts take quotes. -/
def quoted : Facet -> Text
  | text content => Text.quoted content
  | other => other.shown

end Facet

end SequenceCalculator
