import SequenceCalculator.Proofs.Evaluation.Parts

namespace SequenceCalculator

/-!
# Normal forms and the depth of evaluation

The evaluator is given a bound on how deep evaluations may be nested.  In an
environment of normal forms the bound matters only up to the height of the
expression: two more levels are enough, whatever the environment holds, because
a name stands for a number or for a flat sequence.  Beyond that the whole run is
the same, its pauses included.

`Evaluation.settled` is the run with just that bound.  Later statements are made
about it, so they do not mention the bound any more.
-/

open Number

namespace Node

/-- A node that is a value already: a number or a sequence of numbers. -/
def IsNormal (node : Node) : Prop :=
  ∃ value : Value, value.toNode = node

mutual

/-- How many nodes lie one inside the other. -/
def height : Node -> Nat
  | .number _ => 1
  | .name _ => 1
  | .string _ => 1
  | .operation _ operands => greatestHeight operands + 1
  | .range start stop => max start.height stop.height + 1
  | .sequence elements => greatestHeight elements + 1
  | .mapper parameter body => max parameter.height body.height + 1
  | .reducer first second body => max first.height (max second.height body.height) + 1
  | .map source function => max source.height function.height + 1
  | .reduce source primer function =>
      max source.height (max primer.height function.height) + 1
  | .declare declared expression => max declared.height expression.height + 1
  | .print literal => literal.height + 1
  | .out expression => expression.height + 1
  | .foreign _ => 1

/-- The greatest height among several nodes. -/
def greatestHeight : List Node -> Nat
  | [] => 0
  | node :: nodes => max node.height (greatestHeight nodes)

end

theorem height_le_greatest {node : Node} {nodes : List Node} (member : node ∈ nodes) :
    node.height ≤ greatestHeight nodes := by
  induction nodes with
  | nil => cases member
  | cons head rest inductionHypothesis =>
      rw [greatestHeight]
      rcases List.mem_cons.mp member with same | later
      · subst head
        exact Nat.le_max_left _ _
      · exact Nat.le_trans (inductionHypothesis later) (Nat.le_max_right _ _)

theorem height_pos (node : Node) : 0 < node.height := by
  cases node <;> simp [height]

/-- An operand is lower than its operation. -/
theorem height_lt_operation {node : Node} {operator : Operator} {operands : List Node}
    (member : node ∈ operands) : node.height < (Node.operation operator operands).height := by
  rw [height]
  exact Nat.lt_succ_of_le (height_le_greatest member)

/-- An element is lower than the sequence that lists it. -/
theorem height_lt_sequence {node : Node} {elements : List Node}
    (member : node ∈ elements) : node.height < (Node.sequence elements).height := by
  rw [height]
  exact Nat.lt_succ_of_le (height_le_greatest member)

end Node

namespace Environment

/-- Every name that is bound is bound to a normal form. -/
def IsNormal (environment : Environment) : Prop :=
  forall name node, environment.find? name = some node -> node.IsNormal

theorem isNormal_nil : IsNormal [] := by
  intro name node found
  cases found

/-- Binding a name to a normal form keeps every binding normal. -/
theorem IsNormal.insert {environment : Environment} (normal : environment.IsNormal)
    (name : Text) {node : Node} (nodeNormal : node.IsNormal) :
    (environment.insert name node).IsNormal := by
  intro other bound found
  by_cases same : other = name
  · subst other
    rw [find?_insert_self] at found
    cases found
    exact nodeNormal
  · rw [find?_insert_of_ne environment node same] at found
    exact normal other bound found

theorem IsNormal.insert_number {environment : Environment} (normal : environment.IsNormal)
    (name : Text) (number : Number.Single) :
    (environment.insert name (.number number)).IsNormal :=
  normal.insert name ⟨.number number, rfl⟩

/-- The same for a position that may hold no name. -/
theorem IsNormal.assign {environment : Environment} (normal : environment.IsNormal)
    (name : Option Text) {node : Node} (nodeNormal : node.IsNormal) :
    (Evaluation.assign environment name node).IsNormal := by
  cases name with
  | none => exact normal
  | some name => exact normal.insert name nodeNormal

end Environment

namespace Value

theorem isNormal_toNode (value : Value) : value.toNode.IsNormal :=
  ⟨value, rfl⟩

end Value

namespace Evaluation

theorem height_lt_of_mapperParts {function body : Node} {name : Option Text}
    (parsed : mapperParts function = .ok (name, body)) : body.height < function.height := by
  rcases mapperParts_eq_ok parsed with ⟨parameter, rfl, _⟩
  rw [Node.height]
  omega

theorem height_lt_of_reducerParts {function body : Node} {firstName secondName : Option Text}
    (parsed : reducerParts function = .ok (firstName, secondName, body)) :
    body.height < function.height := by
  rcases reducerParts_eq_ok parsed with ⟨first, second, rfl, _, _⟩
  rw [Node.height]
  omega

/-- What is inside an expression is lower. -/
theorem Inside.height_lt {node part : Node} {enter : Environment -> Environment}
    (inside : Inside node enter part) : part.height < node.height := by
  cases inside with
  | operand member => exact Node.height_lt_operation member
  | element member => exact Node.height_lt_sequence member
  | mapBody parts element =>
      have lower := height_lt_of_mapperParts parts
      rw [Node.height]
      omega
  | reduceBody parts accumulator element =>
      have lower := height_lt_of_reducerParts parts
      rw [Node.height]
      omega
  | _ => rw [Node.height]; omega

/-- Functions bind numbers only. -/
theorem Inside.isNormal {node part : Node} {enter : Environment -> Environment}
    (inside : Inside node enter part) {environment : Environment}
    (normal : environment.IsNormal) : (enter environment).IsNormal := by
  cases inside with
  | @mapBody _ _ _ parameter parts element =>
      exact normal.assign parameter (Value.isNormal_toNode (.number element))
  | @reduceBody _ _ _ _ first second parts accumulator element =>
      exact (normal.assign first (Value.isNormal_toNode (.number accumulator))).assign second
        (Value.isNormal_toNode (.number element))
  | _ => exact normal

/-- Where the bindings are normal forms, only what lies lower than an expression is
evaluated for it, and the normal forms themselves because of the names. -/
theorem rule_congr_of_isNormal {first second : Evaluator} {environment : Environment}
    (normal : environment.IsNormal) (node : Node)
    (agree : forall scope inner, scope.IsNormal -> inner.height < node.height ->
      first scope inner = second scope inner)
    (agreeNormal : forall bound : Value,
      first environment bound.toNode = second environment bound.toNode) :
    rule first environment node = rule second environment node := by
  apply rule_congr
  · intro text _
    refine ⟨rfl, fun bound found => ?_⟩
    rcases normal text bound found with ⟨value, rfl⟩
    exact agreeNormal value
  · intro enter part inside
    exact agree (enter environment) part (inside.isNormal normal) inside.height_lt

/-- The run at a normal form: a pause, and one more for each element. -/
def normalRun : Value -> Trial Failure Value
  | .number value => Trial.afterPause fun _ => .succeed (.number value)
  | .sequence elements =>
      Trial.afterPause fun _ =>
        (Trial.traverse (fun element => Trial.afterPause fun _ => .succeed element)
          elements).map Value.sequence

/-- Two levels are enough for a normal form, in any environment. -/
theorem value_toNode (depth : Nat) (environment : Environment) (bound : Value) :
    value (depth + 2) environment bound.toNode = normalRun bound := by
  cases bound with
  | number number => rfl
  | sequence elements =>
      have flat : numbers (value (depth + 1)) environment (elements.map .number) =
          Trial.traverse (fun element => Trial.afterPause fun _ => .succeed element) elements := by
        suffices general : forall found,
            Trial.traverseFrom (number (value (depth + 1)) environment) found
                (elements.map .number) =
              Trial.traverseFrom (fun element => Trial.afterPause fun _ => .succeed element)
                found elements from general []
        induction elements with
        | nil => intro found; rfl
        | cons element rest inductionHypothesis =>
            intro found
            simp only [List.map_cons, Trial.traverseFrom]
            have head : number (value (depth + 1)) environment (.number element) =
                Trial.afterPause fun _ => .succeed element := rfl
            rw [head]
            congr 1
            funext value
            exact inductionHypothesis (value :: found)
      rw [Value.toNode, value]
      congr 1
      funext _
      rw [rule, flat]

/-- A normal form is its own value. -/
theorem value_normalRun (bound : Value) : (normalRun bound).value = .success bound := by
  cases bound with
  | number number => rfl
  | sequence elements =>
      have flat : Outcome.traverse (ε := Failure) Outcome.success elements = .success elements := by
        induction elements with
        | nil => rfl
        | cons element rest inductionHypothesis =>
            simp only [Outcome.traverse, Outcome.bind_success, inductionHypothesis,
              Outcome.map_success]
      simp only [normalRun, Trial.value_afterPause, Trial.value_map, Trial.value_traverse,
        Trial.value_succeed, flat, Outcome.map_success]

/-- Beyond the height of the expression the bound on the depth has no effect on
the run.  The induction is on the smaller of the two bounds: one level is used up
by each expression, and two are left for a name. -/
theorem value_depth_irrelevant {depth more : Nat} {environment : Environment}
    (normal : environment.IsNormal) {node : Node} (enough : node.height + 2 ≤ depth)
    (enoughMore : node.height + 2 ≤ more) :
    value depth environment node = value more environment node := by
  induction depth generalizing more environment node with
  | zero => omega
  | succ depth inductionHypothesis =>
      have positive := node.height_pos
      rcases more with _ | more
      · omega
      rw [value, value]
      congr 1
      funext _
      refine rule_congr_of_isNormal normal node (fun scope inner scopeNormal lower => ?_)
        (fun bound => ?_)
      · exact inductionHypothesis scopeNormal (by omega) (by omega)
      · rcases depth with _ | _ | depth
        · omega
        · omega
        rcases more with _ | _ | more
        · omega
        · omega
        rw [value_toNode, value_toNode]

/-- The run of an expression that is given the depth it needs. -/
def settled (environment : Environment) (node : Node) : Trial Failure Value :=
  value (node.height + 2) environment node

/-- With any depth from there on the run is the settled one. -/
theorem value_eq_settled {depth : Nat} {environment : Environment}
    (normal : environment.IsNormal) {node : Node} (enough : node.height + 2 ≤ depth) :
    value depth environment node = settled environment node :=
  value_depth_irrelevant normal enough (Nat.le_refl _)

/-- The settled run follows the rule of its expression, with the settled runs of
the expressions inside. -/
theorem settled_eq_rule {environment : Environment} (normal : environment.IsNormal)
    (node : Node) :
    settled environment node = Trial.afterPause fun _ => rule settled environment node := by
  rw [settled, value]
  congr 1
  funext _
  refine rule_congr_of_isNormal normal node (fun scope inner scopeNormal lower => ?_)
    (fun bound => ?_)
  · exact value_eq_settled scopeNormal (by omega)
  · have positive := node.height_pos
    obtain ⟨depth, same⟩ : ∃ depth, node.height + 1 = depth + 2 := ⟨node.height - 1, by omega⟩
    rw [same, value_toNode, settled, value_toNode]

end Evaluation

end SequenceCalculator
