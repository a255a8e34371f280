import SequenceCalculator.Grammar.Token

namespace SequenceCalculator
namespace Grammar

/-!
Expressions.

Five levels of operators bind from tightest to loosest as powers, quotients,
products, differences and sums.  Each level is a list of items of the next
tighter one, so each level wraps its items in an operation even when there is
only one.

Every rule is a function of the parser for the expressions inside it.  The
expression rule ties the knot with a bound on how deep expressions may be
nested.
-/

open SequenceCalculator.Parser

/-- A parser between round brackets. -/
def parenthesized {α : Type} (parser : Parser α) : Parser α :=
  parser.between (mark '(') (mark ')')

/-- A parser between braces. -/
def braced {α : Type} (parser : Parser α) : Parser α :=
  parser.between (mark '\x7b') (mark '\x7d')

section Rules

variable (inner : Parser Node)

/-- The whole numbers between two bounds. -/
def range : Parser Node :=
  braced ((inner.skipRight (keyword "..".toList)).bind fun start =>
    inner.bind fun stop => Parser.pure (.range start stop))

/-- Listed elements, or none. -/
def sequence : Parser Node :=
  (braced ((inner.delimitedBy (keyword ",".toList)).map .sequence)).orElse
    (((mark '\x7b').skipLeft (mark '\x7d')).mapTo (.sequence []))

/-- A function of one parameter. -/
def mapper : Parser Node :=
  token ((name.skipRight (keyword "->".toList)).bind fun parameter =>
    inner.map fun body => .mapper parameter body)

/-- A function of two parameters. -/
def reducer : Parser Node :=
  token (name.bind fun first =>
    (name.skipRight (keyword "->".toList)).bind fun second =>
      inner.map fun body => .reducer first second body)

/-- A function applied to every element. -/
def map : Parser Node :=
  (keyword "map".toList).skipLeft (parenthesized
    ((inner.skipRight (keyword ",".toList)).bind fun source =>
      (mapper inner).map fun function => .map source function))

/-- A fold over a sequence. -/
def reduce : Parser Node :=
  (keyword "reduce".toList).skipLeft (parenthesized
    ((inner.skipRight (keyword ",".toList)).bind fun source =>
      (inner.skipRight (keyword ",".toList)).bind fun primer =>
        (reducer inner).map fun function => .reduce source primer function))

/-- The tightest expressions, in the order in which they are tried. -/
def atom : Parser Node :=
  token (((((((parenthesized inner).orElse (range inner)).orElse
    (sequence inner)).orElse number).orElse (reduce inner)).orElse
      (map inner)).orElse name)

/-- One level of operators: items of the next tighter level. -/
def chain (operator : Operator) (item : Parser Node) : Parser Node :=
  (item.delimitedBy (keyword [operator.symbol])).map (.operation operator)

/-- Powers. -/
def powers : Parser Node := chain .power (atom inner)

/-- Quotients of powers. -/
def quotients : Parser Node := chain .over (powers inner)

/-- Products of quotients. -/
def products : Parser Node := chain .times (quotients inner)

/-- Differences of products. -/
def differences : Parser Node := chain .minus (products inner)

/-- Sums of differences: whole expressions. -/
def sums : Parser Node := chain .plus (differences inner)

end Rules

/-- An expression with at most the given number of expressions inside one
another. -/
def expression : (depth : Nat) -> Parser Node
  | 0 => abort .tooDeep
  | depth + 1 => fun input => sums (expression depth) input

end Grammar
end SequenceCalculator
