import SequenceCalculator.Text.Basic

namespace SequenceCalculator
namespace Text

/-!
Classes of characters given as spans of code points.
-/

/-- The code points from the first to the second, both included. -/
abbrev Span := Nat × Nat

/-- Membership in a list of spans in increasing order: the search stops at the
first span that starts beyond the code point. -/
def inSpans (code : Nat) : List Span -> Bool
  | [] => false
  | (first, last) :: spans =>
      if code < first then false
      else if code <= last then true
      else inSpans code spans

end Text
end SequenceCalculator
