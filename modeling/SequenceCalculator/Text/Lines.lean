import SequenceCalculator.Text.Basic

namespace SequenceCalculator
namespace Text

/-!
Lines.  Whatever a text uses to end its lines, a carriage return, a line feed or
both, is read as one line feed.
-/

/-- The text with every line end written as a line feed. -/
def unifyLineEnds : Text -> Text
  | [] => []
  | '\r' :: '\n' :: text => '\n' :: unifyLineEnds text
  | '\r' :: text => '\n' :: unifyLineEnds text
  | character :: text => character :: unifyLineEnds text

/-- The lines of a text without their ends.  A last line need not be ended. -/
def lines : Text -> List Text
  | [] => []
  | character :: text =>
      if character = '\n' then [] :: lines text
      else
        match lines text with
        | [] => [[character]]
        | line :: rest =>
            (character :: line) :: rest

end Text
end SequenceCalculator
