import SequenceCalculator.Number.Floating
import SequenceCalculator.Text.Basic

namespace SequenceCalculator

/-!
Trees of the calculator language.

One type holds expressions, the functions given to map and reduce, string
literals and statements, so that trees which no program text produces can be
written down as well.  A position that should hold a node may even hold
something foreign; evaluation and normalization refuse it.
-/

open Number

/-- An arithmetic operator; operations take any number of operands. -/
inductive Operator where
  | plus
  | minus
  | times
  | over
  | power
deriving DecidableEq

/-- The symbol of an operator. -/
def Operator.symbol : Operator -> Char
  | .plus => '+'
  | .minus => '-'
  | .times => '*'
  | .over => '/'
  | .power => '^'

/-- The kind of an expression.  Numbers and sequences are the kinds of values. -/
inductive Kind where
  | anything
  | number
  | sequence
  | range
  | unevaluated
deriving DecidableEq

/-- How a kind is named in messages. -/
def Kind.name : Kind -> Text
  | .anything => "anything".toList
  | .number => "number".toList
  | .sequence => "sequence".toList
  | .range => "sequence range".toList
  | .unevaluated => "unevaluated expression".toList

/-- Something that is not a node. -/
inductive Foreign where
  | nothing
  | truth (value : Bool)
  | integer (value : Int)
  | number (value : Double)
  | text (value : Text)
  | list (items : List Foreign)

namespace Foreign

/-- The integer that a truth value or an integer is. -/
def integer? : Foreign -> Option Int
  | .truth value => some (if value then 1 else 0)
  | .integer value => some value
  | _ => none

/-- Whether a number has the value of an integer. -/
def hasValue (number : Double) (value : Int) : Bool :=
  number.isWhole && number.truncate? == some value

mutual

/-- Equality of things that are not nodes.  Numbers of all kinds are compared by
value, where a truth value is zero or one. -/
def same : Foreign -> Foreign -> Bool
  | .nothing, .nothing => true
  | .text left, .text right => left == right
  | .number left, .number right => left.same right
  | .number left, right => (right.integer?.map (hasValue left)).getD false
  | left, .number right => (left.integer?.map (hasValue right)).getD false
  | .list left, .list right => sameAll left right
  | left, right => left.integer?.isSome && left.integer? == right.integer?

/-- Equality of lists of things that are not nodes. -/
def sameAll : List Foreign -> List Foreign -> Bool
  | [], [] => true
  | left :: lefts, right :: rights => same left right && sameAll lefts rights
  | _, _ => false

end

end Foreign

/-- A node of a tree. -/
inductive Node where
  /-- A number. -/
  | number (value : Single)
  /-- A variable or a parameter. -/
  | name (text : Text)
  /-- A string literal. -/
  | string (content : Text)
  /-- Operands joined by one operator. -/
  | operation (operator : Operator) (operands : List Node)
  /-- The whole numbers from one bound to another. -/
  | range (start stop : Node)
  /-- The listed elements. -/
  | sequence (elements : List Node)
  /-- A function of one parameter. -/
  | mapper (parameter body : Node)
  /-- A function of two parameters. -/
  | reducer (first second body : Node)
  /-- A function applied to every element of a sequence. -/
  | map (source function : Node)
  /-- A function folded over a sequence from a primer on. -/
  | reduce (source primer function : Node)
  /-- A declaration of a variable. -/
  | declare (name expression : Node)
  /-- The output of a string literal. -/
  | print (string : Node)
  /-- The output of a value. -/
  | out (expression : Node)
  /-- No node at all. -/
  | foreign (value : Foreign)

namespace Node

/-- The kind of an expression; functions, literals and statements have none. -/
def kind? : Node -> Option Kind
  | .number _ => some .number
  | .name _ => some .unevaluated
  | .operation _ _ => some .unevaluated
  | .range _ _ => some .range
  | .sequence _ => some .sequence
  | .map _ _ => some .unevaluated
  | .reduce _ _ _ => some .unevaluated
  | _ => none

/-- The operator symbol of an operation. -/
def symbol? : Node -> Option Char
  | .operation operator _ => some operator.symbol
  | _ => none

mutual

/-- Equality of trees, where numbers are compared by value: zeros of both signs
are equal, and an undefined number equals nothing. -/
def same : Node -> Node -> Bool
  | .number left, .number right => left.same right
  | .name left, .name right => left == right
  | .string left, .string right => left == right
  | .operation left leftOperands, .operation right rightOperands =>
      left == right && sameAll leftOperands rightOperands
  | .range leftStart leftStop, .range rightStart rightStop =>
      same leftStart rightStart && same leftStop rightStop
  | .sequence left, .sequence right => sameAll left right
  | .mapper leftParameter leftBody, .mapper rightParameter rightBody =>
      same leftParameter rightParameter && same leftBody rightBody
  | .reducer leftFirst leftSecond leftBody, .reducer rightFirst rightSecond rightBody =>
      same leftFirst rightFirst && same leftSecond rightSecond &&
        same leftBody rightBody
  | .map leftSource leftFunction, .map rightSource rightFunction =>
      same leftSource rightSource && same leftFunction rightFunction
  | .reduce leftSource leftPrimer leftFunction,
      .reduce rightSource rightPrimer rightFunction =>
      same leftSource rightSource && same leftPrimer rightPrimer &&
        same leftFunction rightFunction
  | .declare leftName leftExpression, .declare rightName rightExpression =>
      same leftName rightName && same leftExpression rightExpression
  | .print left, .print right => same left right
  | .out left, .out right => same left right
  | .foreign left, .foreign right => left.same right
  | _, _ => false

/-- Equality of lists of trees. -/
def sameAll : List Node -> List Node -> Bool
  | [], [] => true
  | left :: lefts, right :: rights => same left right && sameAll lefts rights
  | _, _ => false

end

mutual

/-- Whether a tree holds a list that is not a node.  Such a tree cannot be looked
up by its value. -/
def holdsList : Node -> Bool
  | .operation _ operands => anyHoldsList operands
  | .sequence elements => anyHoldsList elements
  | .range start stop => holdsList start || holdsList stop
  | .mapper parameter body => holdsList parameter || holdsList body
  | .reducer first second body => holdsList first || holdsList second || holdsList body
  | .map source function => holdsList source || holdsList function
  | .reduce source primer function =>
      holdsList source || holdsList primer || holdsList function
  | .declare declared expression => holdsList declared || holdsList expression
  | .print literal => holdsList literal
  | .out expression => holdsList expression
  | .foreign (.list _) => true
  | _ => false

/-- Whether one of several trees holds a list that is not a node. -/
def anyHoldsList : List Node -> Bool
  | [] => false
  | node :: nodes => holdsList node || anyHoldsList nodes

end

end Node

end SequenceCalculator
