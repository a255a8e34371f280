import SequenceCalculator.Grammar.Program

namespace SequenceCalculator
namespace Grammar

/-!
# The grammar as a relation

The rules of the language are written down here without any reference to how a
text is read: there is no order of alternatives, no backtracking and no position.
A rule relates tokens to the tree they are a phrase of.  Tokens carry the proofs
that they are well formed, so a list of tokens has no other invariant.

The tree of a phrase is the one with an operation for every level of operators,
also for those that hold a single operand.  Every rule is a relation over the
rule for the expressions inside it, and `Expression` ties the knot with a bound
on how deep expressions are nested.
-/

open Number

/-- A bracket, a separator or an operator. -/
inductive Mark where
  | openRound
  | closeRound
  | openBrace
  | closeBrace
  | dots
  | comma
  | arrow
  | equals
  | operator (joins : Operator)
deriving DecidableEq

def Mark.text : Mark -> Text
  | .openRound => ['(']
  | .closeRound => [')']
  | .openBrace => ['\x7b']
  | .closeBrace => ['\x7d']
  | .dots => "..".toList
  | .comma => ",".toList
  | .arrow => "->".toList
  | .equals => "=".toList
  | .operator joins => [joins.symbol]

/-- One or more letters. -/
structure Word where
  letters : Text
  nonempty : letters ≠ []
  areLetters : forall character, character ∈ letters -> Text.isLetter character = true

namespace Word

/-- The word with the given letters. -/
def spelled (letters : Text) (nonempty : letters ≠ [])
    (areLetters : letters.all Text.isLetter = true) : Word :=
  ⟨letters, nonempty, List.all_eq_true.mp areLetters⟩

def var : Word := spelled "var".toList (by decide) (by decide)
def out : Word := spelled "out".toList (by decide) (by decide)
def print : Word := spelled "print".toList (by decide) (by decide)
def map : Word := spelled "map".toList (by decide) (by decide)
def reduce : Word := spelled "reduce".toList (by decide) (by decide)

end Word

/-- An optional minus sign, decimal digits, and an optional point with more of
them.  A numeral without a point has an empty fraction. -/
structure Numeral where
  negative : Bool
  whole : Text
  fraction : Text
  nonempty : whole ≠ []
  wholeDecimal : forall character, character ∈ whole ->
    (Text.decimalValue? character).isSome = true
  fractionDecimal : forall character, character ∈ fraction ->
    (Text.decimalValue? character).isSome = true

/-- Letters, digits and blanks in quotes. -/
structure Quoted where
  content : Text
  allowed : forall character, character ∈ content ->
    Text.isLetter character = true ∨ Text.isDigit character = true ∨
      Text.isBlank character = true

/-- Decimal digits have place values. -/
theorem placeValues?_isSome {digits : Text}
    (decimal : forall character, character ∈ digits ->
      (Text.decimalValue? character).isSome = true) :
    (placeValues? digits).isSome = true := by
  induction digits with
  | nil => rfl
  | cons digit digits inductionHypothesis =>
      have first := decimal digit List.mem_cons_self
      have rest := inductionHypothesis fun character member =>
        decimal character (List.mem_cons_of_mem digit member)
      rcases Option.isSome_iff_exists.mp first with ⟨value, isValue⟩
      rcases Option.isSome_iff_exists.mp rest with ⟨values, areValues⟩
      rw [placeValues?] at areValues
      rw [placeValues?, List.mapM_cons, isValue, areValues]
      rfl

namespace Numeral

def sign (numeral : Numeral) : Text := if numeral.negative then ['-'] else []

/-- The point and the digits behind it, if there are any. -/
def tail (numeral : Numeral) : Text :=
  if numeral.fraction.isEmpty then [] else '.' :: numeral.fraction

theorem readDecimal?_isSome (numeral : Numeral) :
    (readDecimal? .double numeral.negative numeral.whole numeral.fraction).isSome = true := by
  have whole := placeValues?_isSome numeral.wholeDecimal
  have fraction := placeValues?_isSome numeral.fractionDecimal
  rcases Option.isSome_iff_exists.mp whole with ⟨wholeValues, areWhole⟩
  rcases Option.isSome_iff_exists.mp fraction with ⟨fractionValues, areFraction⟩
  rw [readDecimal?, areWhole, areFraction]
  rfl

/-- The number that a numeral denotes: it is read in double precision and then
rounded to single precision. -/
def value (numeral : Numeral) : Single :=
  ((readDecimal? .double numeral.negative numeral.whole numeral.fraction).get
    numeral.readDecimal?_isSome).convert .single

end Numeral

/-- A token, without the blanks around it. -/
inductive Token where
  | mark (symbol : Mark)
  | word (spelled : Word)
  | numeral (written : Numeral)
  | quoted (literal : Quoted)

def Token.text : Token -> Text
  | .mark symbol => symbol.text
  | .word spelled => spelled.letters
  | .numeral written => written.sign ++ written.whole ++ written.tail
  | .quoted literal => '"' :: literal.content ++ ['"']

/-- A rule of the grammar: which tokens are a phrase, and what its tree is. -/
abbrev Rule (α : Type) := List Token -> α -> Prop

/-- One or more phrases with a mark between neighbours. -/
inductive Listed {α : Type} (item : Rule α) (separator : Mark) : Rule (List α) where
  | one {tokens : List Token} {value : α} (first : item tokens value) :
      Listed item separator tokens [value]
  | more {tokens rest : List Token} {value : α} {values : List α} (first : item tokens value)
      (others : Listed item separator rest values) :
      Listed item separator (tokens ++ .mark separator :: rest) (value :: values)

/-- The tightest expressions, over those inside brackets. -/
inductive Atom (inner : Rule Node) : Rule Node where
  | parenthesized {tokens : List Token} {node : Node} (inside : inner tokens node) :
      Atom inner (.mark .openRound :: tokens ++ [.mark .closeRound]) node
  | range {starts stops : List Token} {start stop : Node} (first : inner starts start)
      (last : inner stops stop) :
      Atom inner (.mark .openBrace :: starts ++ .mark .dots :: stops ++ [.mark .closeBrace])
        (.range start stop)
  | sequence {tokens : List Token} {elements : List Node}
      (listed : Listed inner .comma tokens elements) :
      Atom inner (.mark .openBrace :: tokens ++ [.mark .closeBrace]) (.sequence elements)
  | empty : Atom inner [.mark .openBrace, .mark .closeBrace] (.sequence [])
  | number (numeral : Numeral) : Atom inner [.numeral numeral] (.number numeral.value)
  | map {sources bodies : List Token} {source body : Node} (parameter : Word)
      (takes : inner sources source) (gives : inner bodies body) :
      Atom inner
        (.word .map :: .mark .openRound :: sources ++ .mark .comma :: .word parameter ::
          .mark .arrow :: bodies ++ [.mark .closeRound])
        (.map source (.mapper (.name parameter.letters) body))
  | reduce {sources primers bodies : List Token} {source primer body : Node}
      (first second : Word) (takes : inner sources source) (starts : inner primers primer)
      (gives : inner bodies body) :
      Atom inner
        (.word .reduce :: .mark .openRound :: sources ++ .mark .comma :: primers ++
          .mark .comma :: .word first :: .word second :: .mark .arrow :: bodies ++
          [.mark .closeRound])
        (.reduce source primer (.reducer (.name first.letters) (.name second.letters) body))
  | name (word : Word) : Atom inner [.word word] (.name word.letters)

/-- How tight an operator binds. -/
def strength : Operator -> Nat
  | .plus => 1
  | .minus => 2
  | .times => 3
  | .over => 4
  | .power => 5

/-- One level of operators. -/
inductive Chain (operator : Operator) (item : Rule Node) : Rule Node where
  | operands {tokens : List Token} {operands : List Node}
      (listed : Listed item (.operator operator) tokens operands) :
      Chain operator item tokens (.operation operator operands)

/-- The levels of operators, from the loosest to the tightest. -/
def Sums (inner : Rule Node) : Rule Node :=
  Chain .plus (Chain .minus (Chain .times (Chain .over (Chain .power (Atom inner)))))

/-- Expressions with at most the given number of expressions inside one another. -/
def Expression : (depth : Nat) -> Rule Node
  | 0 => fun _ _ => False
  | depth + 1 => Sums (Expression depth)

/-- Statements. -/
inductive Statement (depth : Nat) : Rule Node where
  | declaration {tokens : List Token} {node : Node} (declared : Word)
      (bound : Expression depth tokens node) :
      Statement depth (.word .var :: .word declared :: .mark .equals :: tokens)
        (.declare (.name declared.letters) node)
  | output {tokens : List Token} {node : Node} (shown : Expression depth tokens node) :
      Statement depth (.word .out :: tokens) (.out node)
  | printing (literal : Quoted) :
      Statement depth [.word .print, .quoted literal] (.print (.string literal.content))

/-- Programs: one or more statements. -/
inductive Program (depth : Nat) : Rule (List Node) where
  | one {tokens : List Token} {node : Node} (statement : Statement depth tokens node) :
      Program depth tokens [node]
  | more {tokens rest : List Token} {node : Node} {nodes : List Node}
      (first : Statement depth tokens node) (others : Program depth rest nodes) :
      Program depth (tokens ++ rest) (node :: nodes)

end Grammar
end SequenceCalculator
