import SequenceCalculator.Proofs.Grammar.Derivation
import SequenceCalculator.Proofs.Text.Classes

namespace SequenceCalculator
namespace Grammar

/-!
# Tokens in a text

A text is laid out from tokens by blanks.  In the looser sense, `Padded`, blanks
may stand anywhere around tokens or not at all.  In the stricter sense, `Laid`,
the text starts with a token, each token is followed by blanks, and at least one
blank separates two words.  What is laid out is read back as the same tokens;
what is only padded need not be.
-/

/-- A text of nothing but blanks. -/
def AllBlank (text : Text) : Prop :=
  forall character, character ∈ text -> Text.isBlank character = true

theorem allBlank_nil : AllBlank [] := fun _ member => by cases member

theorem AllBlank.append {first second : Text} (firstBlank : AllBlank first)
    (secondBlank : AllBlank second) : AllBlank (first ++ second) := by
  intro character member
  rcases List.mem_append.mp member with inFirst | inSecond
  · exact firstBlank character inFirst
  · exact secondBlank character inSecond

/-- A text made of tokens and of blanks between and around them. -/
inductive Padded : List Token -> Text -> Prop where
  | nil {blanks : Text} (areBlank : AllBlank blanks) : Padded [] blanks
  | cons {token : Token} {tokens : List Token} {blanks rest : Text}
      (areBlank : AllBlank blanks) (padded : Padded tokens rest) :
      Padded (token :: tokens) (blanks ++ token.text ++ rest)

namespace Padded

theorem token (token : Token) : Padded [token] token.text := by
  have padded : Padded [token] ([] ++ token.text ++ []) :=
    .cons allBlank_nil (.nil allBlank_nil)
  rwa [List.nil_append, List.append_nil] at padded

theorem blanks_append {tokens : List Token} {blanks text : Text} (areBlank : AllBlank blanks)
    (padded : Padded tokens text) : Padded tokens (blanks ++ text) := by
  cases padded with
  | nil alsoBlank => exact .nil (areBlank.append alsoBlank)
  | cons alsoBlank rest =>
      rw [← List.append_assoc, ← List.append_assoc]
      exact .cons (areBlank.append alsoBlank) rest

theorem append {front back : List Token} {first second : Text} (frontPadded : Padded front first)
    (backPadded : Padded back second) : Padded (front ++ back) (first ++ second) := by
  induction frontPadded with
  | nil areBlank => exact backPadded.blanks_append areBlank
  | cons areBlank padded inductionHypothesis =>
      rw [List.append_assoc _ _ second]
      exact .cons areBlank inductionHypothesis

end Padded

/-- Whether a token is made of letters. -/
def Token.isWord : Token -> Bool
  | .word _ => true
  | _ => false

/-- The tokens in order, each with the blanks behind it.  Words are separated. -/
inductive Laid : List Token -> Text -> Prop where
  | nil : Laid [] []
  | cons {token : Token} {tokens : List Token} {blanks rest : Text} (areBlank : AllBlank blanks)
      (separate : blanks = [] -> token.isWord = true ->
        forall next, tokens.head? = some next -> next.isWord = false)
      (laid : Laid tokens rest) : Laid (token :: tokens) (token.text ++ blanks ++ rest)

/-!
## What a token starts with
-/

namespace Token

/-- The character that a token starts with. -/
def first : Token -> Char
  | .mark .openRound => '('
  | .mark .closeRound => ')'
  | .mark .openBrace => '\x7b'
  | .mark .closeBrace => '\x7d'
  | .mark .dots => '.'
  | .mark .comma => ','
  | .mark .arrow => '-'
  | .mark .equals => '='
  | .mark (.operator joins) => joins.symbol
  | .word spelled => spelled.letters.head spelled.nonempty
  | .numeral written => if written.negative then '-' else written.whole.head written.nonempty
  | .quoted _ => '"'

theorem text_eq_cons (token : Token) : ∃ others, token.text = token.first :: others := by
  match token with
  | .mark symbol => cases symbol <;> exact ⟨_, rfl⟩
  | .word spelled => exact ⟨_, (List.cons_head_tail spelled.nonempty).symm⟩
  | .numeral written =>
      have whole := List.cons_head_tail written.nonempty
      cases negative : written.negative with
      | true => exact ⟨written.whole ++ written.tail, by simp [text, first, Numeral.sign, negative]⟩
      | false =>
          refine ⟨written.whole.tail ++ written.tail, ?_⟩
          simp only [text, first, Numeral.sign, negative, Bool.false_eq_true, if_false,
            List.nil_append]
          rw [← List.cons_append, whole]
  | .quoted literal => exact ⟨_, rfl⟩

theorem isLetter_first_word (spelled : Word) : Text.isLetter (word spelled).first = true :=
  spelled.areLetters _ (List.head_mem spelled.nonempty)

theorem isDigit_of_mem_whole (written : Numeral) {character : Char}
    (member : character ∈ written.whole) : Text.isDigit character = true :=
  Text.isDigit_of_decimal (written.wholeDecimal character member)

/-- No token starts with a blank. -/
theorem isBlank_first (token : Token) : Text.isBlank token.first = false := by
  match token with
  | .mark symbol =>
      cases symbol with
      | operator joins => cases joins <;> decide
      | _ => decide
  | .word spelled => exact Text.isBlank_of_isLetter (isLetter_first_word spelled)
  | .numeral written =>
      rw [first]
      split
      · decide
      · exact Text.isBlank_of_isDigit (isDigit_of_mem_whole written (List.head_mem _))
  | .quoted literal => exact (by decide : Text.isBlank '"' = false)

/-- Only words start with a letter. -/
theorem isLetter_first {token : Token} (notWord : token.isWord = false) :
    Text.isLetter token.first = false := by
  match token with
  | .mark symbol =>
      cases symbol with
      | operator joins => cases joins <;> decide
      | _ => decide
  | .word spelled => cases notWord
  | .numeral written =>
      rw [first]
      split
      · decide
      · exact Text.isLetter_of_isDigit (isDigit_of_mem_whole written (List.head_mem _))
  | .quoted literal => exact (by decide : Text.isLetter '"' = false)

end Token

namespace Laid

/-- Where a token stands, with its blanks and what follows. -/
theorem split {token : Token} {tokens : List Token} {text : Text}
    (laid : Laid (token :: tokens) text) :
    ∃ blanks rest, text = token.text ++ (blanks ++ rest) ∧ AllBlank blanks ∧ Laid tokens rest ∧
      (blanks = [] -> token.isWord = true ->
        forall next, tokens.head? = some next -> next.isWord = false) := by
  cases laid with
  | cons areBlank separate laid =>
      exact ⟨_, _, List.append_assoc _ _ _, areBlank, laid, separate⟩

/-- The text starts as its first token does. -/
theorem head?_eq {tokens : List Token} {text : Text} (laid : Laid tokens text) :
    text.head? = tokens.head?.map Token.first := by
  cases laid with
  | nil => rfl
  | @cons token tokens blanks rest areBlank separate laid =>
      rcases token.text_eq_cons with ⟨others, starts⟩
      rw [starts]
      rfl

/-- A run of characters ends in front of a text if no token that comes first can
start with such a character. -/
theorem stops {tokens : List Token} {text : Text} (laid : Laid tokens text) {test : Char -> Bool}
    (refused : forall token, tokens.head? = some token -> test token.first = false) :
    text.takeWhile test = [] := by
  have starts := laid.head?_eq
  cases text with
  | nil => rfl
  | cons character rest =>
      cases tokens with
      | nil => cases starts
      | cons token tokens =>
          cases starts
          have fails := refused token rfl
          rw [List.takeWhile_cons_of_neg (by rw [fails]; decide)]

theorem noBlank {tokens : List Token} {text : Text} (laid : Laid tokens text) :
    text.takeWhile Text.isBlank = [] :=
  laid.stops fun token _ => token.isBlank_first

theorem dropBlanks {tokens : List Token} {text : Text} (laid : Laid tokens text) :
    text.dropWhile Text.isBlank = text := by
  have whole := List.takeWhile_append_dropWhile (p := Text.isBlank) (l := text)
  rwa [laid.noBlank, List.nil_append] at whole

/-- The blanks behind a token end where the next token starts. -/
theorem dropBlanks_append {tokens : List Token} {blanks rest : Text} (areBlank : AllBlank blanks)
    (laid : Laid tokens rest) : (blanks ++ rest).dropWhile Text.isBlank = rest := by
  rw [List.dropWhile_append_of_pos areBlank, laid.dropBlanks]

end Laid

/-- A run of characters none of which is a blank ends at blanks. -/
theorem stops_append {blanks rest : Text} {test : Char -> Bool} (areBlank : AllBlank blanks)
    (noBlank : forall character, Text.isBlank character = true -> test character = false)
    (stops : rest.takeWhile test = []) : (blanks ++ rest).takeWhile test = [] := by
  cases blanks with
  | nil => exact stops
  | cons first others =>
      have fails := noBlank first (areBlank first List.mem_cons_self)
      rw [List.cons_append, List.takeWhile_cons_of_neg (by rw [fails]; decide)]

end Grammar
end SequenceCalculator
