import SequenceCalculator.Number.Numeral
import SequenceCalculator.Text.Quoted
import SequenceCalculator.Tree.Node

namespace SequenceCalculator

/-!
How trees are shown in messages: each node as the name of its shape with its
fields, lists of operands in round brackets, and numbers with the fewest digits
that read back.
-/

open Number

/-- The digits of a number as a tree shows them: a point or an exponent is
always present, and an exponent from a power of ten on. -/
def Number.Floating.shownBelow (zeros : Nat) {format : Format} : Floating format -> Text
  | .finite negative magnitude =>
      (if negative then ['-'] else []) ++
        (if magnitude.steps = 0 then "0.0".toList
         else magnitudeNumeralBelow zeros format magnitude.steps)
  | special => special.numeral

/-- The name of an operation's shape. -/
def Operator.shapeName : Operator -> Text
  | .plus => "Add".toList
  | .minus => "Sub".toList
  | .times => "Mul".toList
  | .over => "Div".toList
  | .power => "Pow".toList

namespace Foreign

mutual

/-- How something that is not a node is shown. -/
def shown : Foreign -> Text
  | .nothing => "None".toList
  | .truth value => (if value then "True" else "False").toList
  | .integer value => integerNumeral value
  | .number value => value.shownBelow 16
  | .text value => Text.quoted value
  | .list items => '[' :: Text.join ", ".toList (shownAll items) ++ [']']

/-- How several things that are not nodes are shown. -/
def shownAll : List Foreign -> List Text
  | [] => []
  | item :: items => shown item :: shownAll items

end

/-- The name of the kind of something that is not a node. -/
def kindName : Foreign -> Text
  | .nothing => "NoneType".toList
  | .truth _ => "bool".toList
  | .integer _ => "int".toList
  | .number _ => "float".toList
  | .text _ => "str".toList
  | .list _ => "list".toList

end Foreign

namespace Node

/-- The name of a node's shape. -/
def shapeName : Node -> Text
  | .number _ => "Number".toList
  | .name _ => "Name".toList
  | .string _ => "StringNode".toList
  | .operation operator _ => operator.shapeName
  | .range _ _ => "SequenceRange".toList
  | .sequence _ => "Sequence".toList
  | .mapper _ _ => "Lambda1".toList
  | .reducer _ _ _ => "Lambda2".toList
  | .map _ _ => "Map".toList
  | .reduce _ _ _ => "Reduce".toList
  | .declare _ _ => "VarDeclaration".toList
  | .print _ => "Print".toList
  | .out _ => "Out".toList
  | .foreign value => value.kindName

/-- The name of a shape with named fields. -/
def record (shapeName : Text) (fields : List (String × Text)) : Text :=
  shapeName ++ '(' ::
    Text.join ", ".toList (fields.map fun (label, value) => label.toList ++ '=' :: value)
    ++ [')']

/-- A list in round brackets; a single item is followed by a comma. -/
def bracketed : List Text -> Text
  | [item] => '(' :: item ++ [',', ')']
  | items => '(' :: Text.join ", ".toList items ++ [')']

mutual

/-- How a node is shown. -/
def shown : Node -> Text
  | .number value =>
      record "Number".toList [("value", "np.float32(".toList ++ value.shownBelow 6 ++ [')'])]
  | .name text => record "Name".toList [("value", Text.quoted text)]
  | .string content => record "StringNode".toList [("value", Text.quoted content)]
  | .operation operator operands =>
      record operator.shapeName [("operands", bracketed (shownAll operands))]
  | .range start stop =>
      record "SequenceRange".toList [("start", shown start), ("end", shown stop)]
  | .sequence elements =>
      record "Sequence".toList [("operands", bracketed (shownAll elements))]
  | .mapper parameter body =>
      record "Lambda1".toList [("arg", shown parameter), ("body", shown body)]
  | .reducer first second body =>
      record "Lambda2".toList
        [("first", shown first), ("second", shown second), ("body", shown body)]
  | .map source function =>
      record "Map".toList [("sequence", shown source), ("mapper", shown function)]
  | .reduce source primer function =>
      record "Reduce".toList
        [("sequence", shown source), ("primer", shown primer), ("reducer", shown function)]
  | .declare declared expression =>
      record "VarDeclaration".toList
        [("name", shown declared), ("expression", shown expression)]
  | .print literal => record "Print".toList [("string", shown literal)]
  | .out expression => record "Out".toList [("expression", shown expression)]
  | .foreign value => value.shown

/-- How several nodes are shown. -/
def shownAll : List Node -> List Text
  | [] => []
  | node :: nodes => shown node :: shownAll nodes

end

end Node

end SequenceCalculator
