import Mathlib.Algebra.BigOperators.Group.List.Basic
import Mathlib.Algebra.Group.Prod
import Mathlib.Algebra.Ring.Int.Defs
import SequenceCalculator.Proofs.Grammar.Soundness
import SequenceCalculator.Session.Location

namespace SequenceCalculator
namespace Grammar

/-!
# Brackets in a statement

Every bracket that a phrase opens is closed in it, and within an expression no literal
stands.  So counting brackets says truly that a statement is complete, also where a
literal is printed, which can hold no bracket.
-/

/-- How many more round brackets and braces are opened than closed, and how many quotation
marks there are. -/
def balance (text : Text) : Int × Int × Int :=
  (text.count '(' - text.count ')', text.count '\x7b' - text.count '\x7d', text.count '"')

theorem balance_append (first second : Text) :
    balance (first ++ second) = balance first + balance second := by
  simp only [balance, List.count_append, Prod.mk_add_mk, Prod.mk.injEq]
  omega

/-- The characters that are counted. -/
def counted : List Char := ['(', ')', '\x7b', '\x7d', '"']

theorem balance_eq_zero {text : Text}
    (free : forall character, character ∈ text -> character ∉ counted) : balance text = 0 := by
  have none (character : Char) (isCounted : character ∈ counted) : text.count character = 0 :=
    List.count_eq_zero.mpr fun member => free character member isCounted
  simp only [balance, none '(' (by decide), none ')' (by decide), none '\x7b' (by decide),
    none '\x7d' (by decide), none '"' (by decide)]
  rfl

/-- None of the counted characters passes a test. -/
theorem not_counted {test : Char -> Bool} (refuses : counted.all (fun bar => !test bar) = true)
    {character : Char} (passes : test character = true) : character ∉ counted := by
  intro member
  have refused := List.all_eq_true.mp refuses character member
  rw [passes] at refused
  cases refused

theorem balance_blanks {blanks : Text} (areBlank : AllBlank blanks) : balance blanks = 0 :=
  balance_eq_zero fun character member => not_counted (by decide) (areBlank character member)

@[simp] theorem balance_word (spelled : Word) : balance (Token.word spelled).text = 0 :=
  balance_eq_zero fun character member =>
    not_counted (by decide) (spelled.areLetters character member)

@[simp] theorem balance_numeral (written : Numeral) : balance (Token.numeral written).text = 0 := by
  have whole (digits : Text) (decimal : forall character, character ∈ digits ->
      (Text.decimalValue? character).isSome = true) : balance digits = 0 :=
    balance_eq_zero fun character member =>
      not_counted (by decide) (Text.isDigit_of_decimal (decimal character member))
  have sign : balance written.sign = 0 := by
    rw [Numeral.sign]
    split <;> decide
  have tail : balance written.tail = 0 := by
    rw [Numeral.tail]
    split
    · decide
    · rw [← List.singleton_append, balance_append, whole _ written.fractionDecimal]
      decide
  rw [Token.text, balance_append, balance_append, sign, whole _ written.wholeDecimal, tail]
  rfl

/-- What a mark counts for. -/
def Mark.weight : Mark -> Int × Int × Int
  | .openRound => (1, 0, 0)
  | .closeRound => (-1, 0, 0)
  | .openBrace => (0, 1, 0)
  | .closeBrace => (0, -1, 0)
  | _ => 0

@[simp] theorem balance_mark (symbol : Mark) :
    balance (Token.mark symbol).text = symbol.weight := by
  cases symbol with
  | operator joins => cases joins <;> decide
  | _ => decide

/-- The balance of the text that tokens are written as. -/
def excess (tokens : List Token) : Int × Int × Int :=
  (tokens.map fun token => balance token.text).sum

@[simp] theorem excess_nil : excess [] = 0 := rfl

@[simp] theorem excess_cons (token : Token) (tokens : List Token) :
    excess (token :: tokens) = balance token.text + excess tokens := rfl

@[simp] theorem excess_append (front back : List Token) :
    excess (front ++ back) = excess front + excess back := by
  rw [excess, List.map_append, List.sum_append, excess, excess]

theorem Padded.balance_eq {tokens : List Token} {text : Text} (padded : Padded tokens text) :
    balance text = excess tokens := by
  induction padded with
  | nil areBlank => exact balance_blanks areBlank
  | cons areBlank padded inductionHypothesis =>
      rw [balance_append, balance_append, balance_blanks areBlank, zero_add, excess_cons,
        inductionHypothesis]

/-- All phrases of a rule are closed and hold no literal. -/
def Closes {α : Type} (rule : Rule α) : Prop :=
  forall tokens value, rule tokens value -> excess tokens = 0

section Rules

variable {rule : Rule Node}

theorem Closes.listed (closes : Closes rule) {separator : Mark}
    (neutral : separator.weight = 0) : Closes (Listed rule separator) := by
  intro tokens values listed
  induction listed with
  | one first => exact closes _ _ first
  | more first others inductionHypothesis =>
      simp [closes _ _ first, inductionHypothesis, neutral]

theorem Closes.chain (closes : Closes rule) (operator : Operator) :
    Closes (Chain operator rule) := by
  rintro tokens value ⟨listed⟩
  exact closes.listed rfl _ _ listed

theorem Closes.atom (closes : Closes rule) : Closes (Atom rule) := by
  intro tokens value phrase
  cases phrase with
  | parenthesized inside => simp [closes _ _ inside, Mark.weight]
  | range first last => simp [closes _ _ first, closes _ _ last, Mark.weight]
  | sequence listed => simp [closes.listed rfl _ _ listed, Mark.weight]
  | empty => simp [Mark.weight]
  | number numeral => simp
  | map parameter takes gives => simp [closes _ _ takes, closes _ _ gives, Mark.weight]
  | reduce first second takes starts gives =>
      simp [closes _ _ takes, closes _ _ starts, closes _ _ gives, Mark.weight]
  | name word => simp

end Rules

theorem closes_expression (depth : Nat) : Closes (Expression depth) := by
  induction depth with
  | zero => intro tokens value phrase; cases phrase
  | succ depth inductionHypothesis =>
      exact ((((inductionHypothesis.atom.chain .power).chain .over).chain .times).chain
        .minus).chain .plus

/-- A literal holds none of the characters that are counted. -/
theorem balance_quoted (literal : Quoted) : balance (Token.quoted literal).text = (0, 0, 2) := by
  have content : balance literal.content = 0 := by
    refine balance_eq_zero fun character member => ?_
    rcases literal.allowed character member with letter | digit | blank
    · exact not_counted (by decide) letter
    · exact not_counted (by decide) digit
    · exact not_counted (by decide) blank
  rw [Token.text, List.cons_append, ← List.singleton_append, balance_append, balance_append,
    content]
  decide

/-- A statement is closed, and if it holds a literal, it holds no brackets. -/
theorem excess_of_statement {depth : Nat} {tokens : List Token} {node : Node}
    (phrase : Statement depth tokens node) :
    excess tokens = 0 ∨ ∃ literal, tokens = [.word .print, .quoted literal] := by
  cases phrase with
  | declaration declared bound =>
      exact .inl (by simp [closes_expression depth _ _ bound, Mark.weight])
  | output shown => exact .inl (by simp [closes_expression depth _ _ shown])
  | printing literal => exact .inr ⟨literal, rfl⟩

theorem Padded.not_mem {tokens : List Token} {text : Text} {character : Char}
    (padded : Padded tokens text) (notBlank : Text.isBlank character = false)
    (absent : forall token, token ∈ tokens -> character ∉ token.text) : character ∉ text := by
  induction padded with
  | nil areBlank =>
      intro member
      rw [areBlank character member] at notBlank
      cases notBlank
  | @cons token tokens blanks rest areBlank padded inductionHypothesis =>
      intro member
      rcases List.mem_append.mp member with inFront | inRest
      · rcases List.mem_append.mp inFront with inBlanks | inToken
        · rw [areBlank character inBlanks] at notBlank
          cases notBlank
        · exact absent token List.mem_cons_self inToken
      · exact inductionHypothesis
          (fun other among => absent other (List.mem_cons_of_mem _ among)) inRest

/-- Words and literals hold no brackets. -/
theorem not_mem_printing {literal : Quoted} {bracket : Char}
    (isBracket : bracket = '(' ∨ bracket = '\x7b') :
    forall token, token ∈ [.word .print, .quoted literal] -> bracket ∉ Token.text token := by
  have noCharacter : bracket ≠ '"' ∧ Text.isLetter bracket = false ∧
      Text.isDigit bracket = false ∧ Text.isBlank bracket = false := by
    rcases isBracket with rfl | rfl <;> decide
  rcases noCharacter with ⟨noQuote, noLetter, noDigit, noBlank⟩
  intro token among member
  rcases List.mem_pair.mp among with rfl | rfl
  · have letter := Word.print.areLetters bracket member
    rw [noLetter] at letter
    cases letter
  · rcases List.mem_append.mp member with inFront | atEnd
    · rcases List.mem_cons.mp inFront with opens | inside
      · exact noQuote opens
      · simpa [noLetter, noDigit, noBlank] using literal.allowed bracket inside
    · exact noQuote (List.mem_singleton.mp atEnd)

/-- A text that is read as a statement closes all brackets that it opens, and if it holds a
literal, it opens none. -/
theorem brackets_of_parseStatement {depth : Nat} {text : Text} {node : Node}
    (reads : parseStatement depth text = .success node) :
    text.count '(' = text.count ')' ∧ text.count '\x7b' = text.count '\x7d' ∧
      ('"' ∈ text -> '(' ∉ text ∧ '\x7b' ∉ text) := by
  rcases phrase_of_read (reads_statement depth) reads with ⟨tokens, padded, raw, phrase, _⟩
  have balanced := padded.balance_eq
  rcases excess_of_statement phrase with closed | ⟨literal, rfl⟩
  · rw [closed] at balanced
    have rounds : (text.count '(' : Int) - text.count ')' = 0 := congrArg Prod.fst balanced
    have braces : (text.count '\x7b' : Int) - text.count '\x7d' = 0 :=
      congrArg (fun counts => counts.2.1) balanced
    have quotes : (text.count '"' : Int) = 0 := congrArg (fun counts => counts.2.2) balanced
    refine ⟨by omega, by omega, fun member => ?_⟩
    exact absurd member (List.count_eq_zero.mp (by omega))
  · have printed : excess [.word .print, .quoted literal] = (0, 0, 2) := by
      simp [balance_quoted]
    rw [printed] at balanced
    have rounds : (text.count '(' : Int) - text.count ')' = 0 := congrArg Prod.fst balanced
    have braces : (text.count '\x7b' : Int) - text.count '\x7d' = 0 :=
      congrArg (fun counts => counts.2.1) balanced
    refine ⟨by omega, by omega, fun _ => ⟨?_, ?_⟩⟩
    · exact padded.not_mem (by decide) (not_mem_printing (.inl rfl))
    · exact padded.not_mem (by decide) (not_mem_printing (.inr rfl))

end Grammar
end SequenceCalculator
