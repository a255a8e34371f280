namespace SequenceCalculator

/-!
Texts are lists of characters, so every length and every position counts
characters.
-/

/-- A text, character by character. -/
abbrev Text := List Char

namespace Text

/-- The texts one after the other, with a separator between neighbours. -/
def join (separator : Text) : List Text -> Text
  | [] => []
  | [text] => text
  | text :: next :: texts => text ++ separator ++ join separator (next :: texts)

/-- Whether a text starts with another one. -/
def startsWith (start text : Text) : Bool :=
  start.isPrefixOf text

end Text

end SequenceCalculator
