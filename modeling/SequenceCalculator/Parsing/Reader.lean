import SequenceCalculator.Parsing.Cursor

namespace SequenceCalculator

/-!
The combinators on positions.

A reader is given a position.  It answers the position it has reached and a value, which
is missing when it has failed, or it stops with a fault.  A parser says the same of the
text that is left; it knows neither the source nor the offset.
-/

/-- A reader of values of a type. -/
abbrev Reader (α : Type) := Cursor -> Except Fault (Cursor × Option α)

namespace Reader

variable {α β γ : Type}

/-- Succeeds without reading. -/
def pure (value : α) : Reader α :=
  fun cursor => .ok (cursor, some value)

/-- Fails without reading. -/
def fail : Reader α :=
  fun cursor => .ok (cursor, none)

/-- Stops with a fault. -/
def abort (fault : Fault) : Reader α :=
  fun _ => .error fault

/-- One character that passes a test. -/
def satisfy (test : Char -> Bool) : Reader Char :=
  fun cursor =>
    if cursor.isEmpty then .ok (cursor, none)
    else
      match cursor.head with
      | .ok character =>
          if test character then .ok (cursor.advance 1, some character) else .ok (cursor, none)
      | .error fault => .error fault

/-- One given character. -/
def char (character : Char) : Reader Char :=
  satisfy (· == character)

/-- The end of the source. -/
def endOfText : Reader Unit :=
  fun cursor => if cursor.isEmpty then .ok (cursor, some ()) else .ok (cursor, none)

/-- Changes the value of a reader. -/
def map (reader : Reader α) (change : α -> β) : Reader β :=
  fun cursor =>
    match reader cursor with
    | .ok (place, some value) => .ok (place, some (change value))
    | .ok (place, none) => .ok (place, none)
    | .error fault => .error fault

/-- Replaces the value of a reader. -/
def mapTo (reader : Reader α) (value : β) : Reader β :=
  reader.map fun _ => value

/-- Runs a reader, and from the position it reaches the one chosen by its value. -/
def bind (reader : Reader α) (next : α -> Reader β) : Reader β :=
  fun cursor =>
    match reader cursor with
    | .ok (place, some value) => next value place
    | .ok (place, none) => .ok (place, none)
    | .error fault => .error fault

/-- Runs the alternative from the same position when the reader fails, however far it
got. -/
def orElse (reader alternative : Reader α) : Reader α :=
  fun cursor =>
    match reader cursor with
    | .ok (place, some value) => .ok (place, some value)
    | .ok (_, none) => alternative cursor
    | .error fault => .error fault

/-- The first of several readers that succeeds, tried in order from the same position. -/
def firstOf (readers : List (Reader α)) : Reader α :=
  readers.foldl orElse fail

/-- A given text, character by character.  A mismatch goes back to where it started. -/
def symbol : Text -> Reader Text
  | [] => pure []
  | head :: tail => fun cursor =>
      match (char head).bind (fun character => (symbol tail).map (character :: ·)) cursor with
      | .ok (_, none) => .ok (cursor, none)
      | answer => answer

/-- The loop of a repetition with the values that were read before, for at most a given
number of rounds.  It stops in front of the first failed attempt, or when the offset is
what it was before the round. -/
def manyUpTo (reader : Reader α) : Nat -> List α -> Reader (List α)
  | 0, values, cursor => .ok (cursor, some values)
  | bound + 1, values, cursor =>
      match reader cursor with
      | .ok (_, none) => .ok (cursor, some values)
      | .error fault => .error fault
      | .ok (place, some value) =>
          if place.offset = cursor.offset then .ok (place, some (values ++ [value]))
          else reader.manyUpTo bound (values ++ [value]) place

/-- The loop of a repetition with the values that were read before. -/
def manyFrom (reader : Reader α) (values : List α) : Reader (List α) :=
  fun cursor => reader.manyUpTo (cursor.remaining.toNat + 1) values cursor

/-- Zero or more repetitions. -/
def many (reader : Reader α) : Reader (List α) :=
  reader.manyFrom []

/-- Two readers in a row; the value is the second one's. -/
def skipLeft (reader : Reader α) (next : Reader β) : Reader β :=
  reader.bind fun _ => next

/-- Two readers in a row; the value is the first one's. -/
def skipRight (reader : Reader α) (next : Reader β) : Reader α :=
  reader.bind fun value => next.mapTo value

/-- One or more repetitions. -/
def atLeastOne (reader : Reader α) : Reader (List α) :=
  reader.bind fun first => reader.many.map (first :: ·)

/-- One or more repetitions with a delimiter between neighbours. -/
def delimitedBy (reader : Reader α) (delimiter : Reader β) : Reader (List α) :=
  reader.bind fun first => (delimiter.skipLeft reader).many.map (first :: ·)

/-- A reader between two others, keeping only its own value. -/
def between (reader : Reader α) (left : Reader β) (right : Reader γ) : Reader α :=
  left.skipLeft (reader.skipRight right)

/-- A reader with all blanks around it. -/
def token (reader : Reader α) : Reader α :=
  reader.between (satisfy Text.isBlank).many (satisfy Text.isBlank).many

end Reader

end SequenceCalculator
