import SequenceCalculator.Fault
import SequenceCalculator.Tree.Shown

namespace SequenceCalculator
namespace Node

/-!
Normalization: an operation with a single operand is replaced by that operand,
everywhere in a tree.  Every precedence level of the grammar wraps its operand,
so a number is read as five operations with one operand each.
-/

mutual

/-- The tree without operations of a single operand. -/
def normalize : Node -> Except Fault Node
  | .operation _ [operand] => normalize operand
  | .operation operator operands => do
      return .operation operator (← normalizeAll operands)
  | .sequence elements => do return .sequence (← normalizeAll elements)
  | .number value => .ok (.number value)
  | .name text => .ok (.name text)
  | .string content => .ok (.string content)
  | .range start stop => do
      let start <- normalize start
      let stop <- normalize stop
      return .range start stop
  | .mapper parameter body => do
      let parameter <- normalize parameter
      let body <- normalize body
      return .mapper parameter body
  | .reducer first second body => do
      let first <- normalize first
      let second <- normalize second
      let body <- normalize body
      return .reducer first second body
  | .map source function => do
      let source <- normalize source
      let function <- normalize function
      return .map source function
  | .reduce source primer function => do
      let source <- normalize source
      let primer <- normalize primer
      let function <- normalize function
      return .reduce source primer function
  | .declare declared expression => do
      let declared <- normalize declared
      let expression <- normalize expression
      return .declare declared expression
  | .print literal => do return .print (← normalize literal)
  | .out expression => do return .out (← normalize expression)
  | .foreign value => .error (.notNormalizable value.shown)

/-- Several trees, normalized in order. -/
def normalizeAll : List Node -> Except Fault (List Node)
  | [] => .ok []
  | node :: nodes => do
      let node <- normalize node
      let nodes <- normalizeAll nodes
      return node :: nodes

end

end Node
end SequenceCalculator
