import SequenceCalculator.Text.Basic

namespace SequenceCalculator
namespace Text

/-!
Parts of a text between two indexes, and the index of a character.  A negative
index counts from the end, and an index beyond either end means that end.
-/

/-- The position that an index denotes in a text of a given length. -/
def position (length : Nat) (index : Int) : Nat :=
  if index < 0 then (index + length).toNat else min index.toNat length

/-- The part from an index on. -/
def dropTo (index : Int) (text : Text) : Text :=
  text.drop (position text.length index)

/-- The part before an index. -/
def takeTo (index : Int) (text : Text) : Text :=
  text.take (position text.length index)

/-- The part from one index up to another. -/
def between (start stop : Int) (text : Text) : Text :=
  (text.take (position text.length stop)).drop (position text.length start)

/-- The index of a character where it stands first from a position on, and -1 when
it does not stand there. -/
def find (character : Char) (start : Nat) (text : Text) : Int :=
  if character ∈ text.drop start then start + (text.drop start).idxOf character else -1

/-- The index of a character where it stands last in front of a position, and -1
when it does not stand there. -/
def findLast (character : Char) (stop : Nat) (text : Text) : Int :=
  if character ∈ text.take stop then
    (text.take stop).length - 1 - (text.take stop).reverse.idxOf character
  else -1

/-- A run of blanks; none when the count is negative. -/
def spaces (count : Int) : Text :=
  List.replicate count.toNat ' '

end Text
end SequenceCalculator
