import SequenceCalculator.Parsing.Cursor
import SequenceCalculator.Parsing.Pattern

namespace SequenceCalculator
namespace Pattern

/-!
Patterns at any position.

In front of its source a pattern may find a position without a character.  A
pattern that looks at a character there ends the parse with a fault; one that
does not, such as a pure value, goes on as usual.  As nothing can be read, such
a position is never left.
-/

/-- What a pattern comes to where no character can be looked at: a value or
none. -/
abbrev Glimpse := Except Fault (Option Datum)

namespace Glimpse

/-- Looks at a character, which is a fault. -/
def look : Glimpse := .error .outsideText

/-- A value, where `nothing` stands for none. -/
def ofDatum : Datum -> Glimpse
  | .nothing => .ok none
  | value => .ok (some value)

/-- Goes on with a value. -/
def next (glimpse : Glimpse) (step : Datum -> Glimpse) : Glimpse :=
  match glimpse with
  | .ok (some value) => step value
  | other => other

/-- Goes on with the alternative where there is no value. -/
def orElse (glimpse alternative : Glimpse) : Glimpse :=
  match glimpse with
  | .ok none => alternative
  | other => other

/-- The values of a repetition, which ends at once because nothing is read. -/
def repeated (glimpse : Glimpse) : Except Fault (List Datum) :=
  glimpse.map Option.toList

/-- A first value and those of a repetition. -/
def andRepeated (glimpse rest : Glimpse) : Glimpse :=
  glimpse.next fun first =>
    rest.repeated.map fun others => some (.list (first :: others))

end Glimpse

/-- What the continuation of a value comes to where no character can be looked
at. -/
def glimpsed : Continuation -> Datum -> Glimpse
  | .sameCharacter, _ => .look
  | .sameSymbol, datum =>
      match spelled datum with
      | .ok (some []) => .ok (some (.text []))
      | .ok _ => .look
      | .error fault => .error fault
  | .twice, datum => do Glimpse.ofDatum (<- datum.doubled)
  | .counted, datum => do
      let count <- datum.toInteger
      if countLimit < count || count < -countLimit - 1 then throw .uncountable
      else if count <= 0 then return some (.text [])
      else Glimpse.look
  | .fail, _ => .ok none

mutual

/-- What a pattern comes to where no character can be looked at. -/
def glimpse (definitions : Text -> Option Pattern) (depth : Nat) : Pattern -> Glimpse
  | .endOfText => .ok none
  | .pure value => .ofDatum value
  | .fail => .ok none
  | .symbol [] => .ok (some (.text []))
  | .firstOf alternatives => glimpseFirst definitions depth (.ok none) alternatives
  | .map pattern change =>
      (glimpse definitions depth pattern).next fun value => do
        Glimpse.ofDatum (<- change.apply value)
  | .mapTo pattern value =>
      (glimpse definitions depth pattern).next fun _ => .ofDatum value
  | .bind pattern continuation =>
      (glimpse definitions depth pattern).next (glimpsed continuation)
  | .orElse pattern alternative =>
      (glimpse definitions depth pattern).orElse (glimpse definitions depth alternative)
  | .many pattern =>
      (glimpse definitions depth pattern).repeated.map fun values => some (.list values)
  | .atLeastOne pattern =>
      (glimpse definitions depth pattern).andRepeated (glimpse definitions depth pattern)
  | .text pattern =>
      (glimpse definitions depth pattern).next fun value => do
        Glimpse.ofDatum (<- value.joined)
  | .delimitedBy pattern delimiter =>
      (glimpse definitions depth pattern).andRepeated
        ((glimpse definitions depth delimiter).next fun _ =>
          glimpse definitions depth pattern)
  | .between pattern left right =>
      (glimpse definitions depth left).next fun _ =>
        (glimpse definitions depth pattern).next fun value =>
          (glimpse definitions depth right).next fun _ => .ofDatum value
  | .skipLeft pattern next =>
      (glimpse definitions depth pattern).next fun _ => glimpse definitions depth next
  | .skipRight pattern next =>
      (glimpse definitions depth pattern).next fun value =>
        (glimpse definitions depth next).next fun _ => .ofDatum value
  | .reference name =>
      match depth with
      | 0 => .error .tooDeep
      | depth + 1 =>
          match definitions name with
          | some pattern => glimpse definitions depth pattern
          | none => .error (.noKey name)
  | _ => .look

/-- What the first of several patterns with a value comes to, after the given
one. -/
def glimpseFirst (definitions : Text -> Option Pattern) (depth : Nat)
    (before : Glimpse) : List Pattern -> Glimpse
  | [] => before
  | pattern :: patterns =>
      glimpseFirst definitions depth
        (before.orElse (glimpse definitions depth pattern)) patterns

end

/-- Runs a pattern from any position. -/
def run (definitions : Text -> Option Pattern) (depth : Nat) (pattern : Pattern)
    (cursor : Cursor) : Except Fault (Cursor × Option Datum) :=
  if cursor.isUnreadable then
    (glimpse definitions depth pattern).map fun value => (cursor, value)
  else cursor.run (pattern.parser definitions depth)

end Pattern
end SequenceCalculator
