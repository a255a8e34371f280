import SequenceCalculator.Text.Span

namespace SequenceCalculator
namespace Text

/-!
Blanks: the characters that may surround any token.  They include line ends,
the four information separators and the wide spaces, but no zero-width space.
-/

/-- The spans of blank code points. -/
def blankSpans : List Span :=
  [(9, 13), (28, 32), (133, 133), (160, 160), (5760, 5760), (8192, 8202), (8232, 8233),
   (8239, 8239), (8287, 8287), (12288, 12288)]

/-- Whether a character is skipped around tokens. -/
def isBlank (character : Char) : Bool :=
  inSpans character.toNat blankSpans

/-- The text without the blanks at its end. -/
def trimEnd (text : Text) : Text :=
  (text.reverse.dropWhile isBlank).reverse

/-- The text without the blanks at both ends. -/
def trim (text : Text) : Text :=
  trimEnd (text.dropWhile isBlank)

end Text
end SequenceCalculator
