import SequenceCalculator.Proofs.Evaluation.FreeNames
import SequenceCalculator.Proofs.Evaluation.Kinds
import SequenceCalculator.Proofs.Evaluation.Results

namespace SequenceCalculator

/-!
# Expressions and their values are interchangeable

An expression inside another one may be replaced by the value it has in the bindings
around the whole, as long as no function in between binds one of its free names.  The
place may be evaluated never, once or many times, in scopes that functions have made
and with different kinds expected of it.  None of this makes a difference, since the
expression comes to the same in all these scopes and its value comes to itself
everywhere.

A context is an expression with one place left open.
-/

open Number

namespace Evaluation

/-- An expression with a hole where an expression may stand. -/
inductive Context where
  | hole
  | operand (operator : Operator) (before : List Node) (inside : Context) (after : List Node)
  | start (inside : Context) (last : Node)
  | stop (first : Node) (inside : Context)
  | element (before : List Node) (inside : Context) (after : List Node)
  | mapSource (inside : Context) (function : Node)
  | mapBody (source : Node) (parameter : Text) (inside : Context)
  | reduceSource (inside : Context) (initial function : Node)
  | primer (source : Node) (inside : Context) (function : Node)
  | reduceBody (source initial : Node) (first second : Text) (inside : Context)

namespace Context

/-- The expression with another one in its hole. -/
def fill (node : Node) : Context -> Node
  | .hole => node
  | .operand operator before inside after =>
      .operation operator (before ++ inside.fill node :: after)
  | .start inside last => .range (inside.fill node) last
  | .stop first inside => .range first (inside.fill node)
  | .element before inside after => .sequence (before ++ inside.fill node :: after)
  | .mapSource inside function => .map (inside.fill node) function
  | .mapBody source parameter inside =>
      .map source (.mapper (.name parameter) (inside.fill node))
  | .reduceSource inside initial function => .reduce (inside.fill node) initial function
  | .primer source inside function => .reduce source (inside.fill node) function
  | .reduceBody source initial first second inside =>
      .reduce source initial (.reducer (.name first) (.name second) (inside.fill node))

/-- The names that functions around the hole bind. -/
def binds : Context -> List Text
  | .hole => []
  | .operand _ _ inside _ => inside.binds
  | .start inside _ => inside.binds
  | .stop _ inside => inside.binds
  | .element _ inside _ => inside.binds
  | .mapSource inside _ => inside.binds
  | .mapBody _ parameter inside => parameter :: inside.binds
  | .reduceSource inside _ _ => inside.binds
  | .primer _ inside _ => inside.binds
  | .reduceBody _ _ first second inside => first :: second :: inside.binds

end Context

/-!
## Heights
-/

theorem greatestHeight_append (before after : List Node) :
    Node.greatestHeight (before ++ after) =
      max (Node.greatestHeight before) (Node.greatestHeight after) := by
  induction before with
  | nil => rw [List.nil_append, Node.greatestHeight, Nat.zero_max]
  | cons node before inductionHypothesis =>
      rw [List.cons_append, Node.greatestHeight, Node.greatestHeight, inductionHypothesis,
        Nat.max_assoc]

/-- What stands in the hole is no higher than the whole. -/
theorem Context.height_le_fill (context : Context) (node : Node) :
    node.height ≤ (context.fill node).height := by
  induction context with
  | hole => exact Nat.le_refl _
  | _ =>
      simp only [fill, Node.height, greatestHeight_append, Node.greatestHeight]
      omega

/-- The whole grows by no more than what stands in the hole. -/
theorem Context.height_fill_le {node other : Node} {growth : Nat}
    (grows : other.height ≤ node.height + growth) (context : Context) :
    (context.fill other).height ≤ (context.fill node).height + growth := by
  induction context with
  | hole => exact grows
  | _ =>
      simp only [fill, Node.height, greatestHeight_append, Node.greatestHeight]
      omega

theorem height_toNode_le (found : Value) : found.toNode.height ≤ 2 := by
  cases found with
  | number number => exact Nat.le_succ 1
  | sequence elements =>
      have flat : Node.greatestHeight (elements.map .number) ≤ 1 := by
        induction elements with
        | nil => exact Nat.zero_le 1
        | cons element rest inductionHypothesis =>
            rw [List.map_cons, Node.greatestHeight]
            exact Nat.max_le.mpr ⟨Nat.le_refl 1, inductionHypothesis⟩
      rw [Value.toNode, Node.height]
      omega

/-!
## Results
-/

/-- What stands under a function comes to the same as around it, apart from the names
that the function binds. -/
theorem result_eq_of_agreeOn {first second : Environment} (firstNormal : first.IsNormal)
    (secondNormal : second.IsNormal) {node : Node} (agree : AgreeOn node first second) :
    result first node = result second node := by
  rw [result, result, settled, settled, value_eq_of_agreeOn _ firstNormal secondNormal agree]

theorem result_insert {environment : Environment} (normal : environment.IsNormal) {node : Node}
    {name : Text} (apart : ¬ Free name node) (bound : Value) :
    result (environment.insert name bound.toNode) node = result environment node :=
  result_eq_of_agreeOn (normal.insert name bound.isNormal_toNode) normal
    (agreeOn_insert apart environment bound.toNode)

/-- A fold depends on the numbers that the body comes to in the scopes it is given. -/
theorem folded_congr {environment : Environment} {first second : Text} {body other : Node}
    (same : forall accumulator element : Single,
      result ((environment.insert first (.number accumulator)).insert second (.number element))
          body =
        result ((environment.insert first (.number accumulator)).insert second (.number element))
          other)
    (start : Single) (elements : List Single) :
    folded settled environment first second body start elements =
      folded settled environment first second other start elements := by
  induction elements generalizing start with
  | nil => rfl
  | cons element rest inductionHypothesis =>
      simp only [folded, value_number_settled, resultNumber, same, inductionHypothesis]

/-- The induction is on the context.  Under a function the bindings change, and the
expression in the hole still has the value it had around. -/
theorem result_fill (context : Context) {environment : Environment}
    (normal : environment.IsNormal) {node : Node} {found : Value}
    (evaluates : result environment node = .success found)
    (apart : forall name, name ∈ context.binds -> ¬ Free name node) :
    result environment (context.fill node) = result environment (context.fill found.toNode) := by
  induction context generalizing environment with
  | hole => simp only [Context.fill, evaluates, result_toNode]
  | operand operator before inside after inductionHypothesis =>
      have same := inductionHypothesis normal evaluates apart
      simp only [Context.fill, result_operation normal]
      congr 1
      apply Outcome.traverse_exchange
      simp only [resultNumber, same]
  | element before inside after inductionHypothesis =>
      have same := inductionHypothesis normal evaluates apart
      simp only [Context.fill, result_sequence normal]
      congr 1
      apply Outcome.traverse_exchange
      simp only [same]
  | start inside last inductionHypothesis =>
      have same := inductionHypothesis normal evaluates apart
      simp only [Context.fill, result_range normal, resultNumber, same]
  | stop first inside inductionHypothesis =>
      have same := inductionHypothesis normal evaluates apart
      simp only [Context.fill, result_range normal, resultNumber, same]
  | mapSource inside function inductionHypothesis =>
      have same := inductionHypothesis normal evaluates apart
      simp only [Context.fill, result_map normal, resultElements, same]
  | reduceSource inside initial function inductionHypothesis =>
      have same := inductionHypothesis normal evaluates apart
      simp only [Context.fill, result_reduce normal, resultElements, same]
  | primer source inside function inductionHypothesis =>
      have same := inductionHypothesis normal evaluates apart
      simp only [Context.fill, result_reduce normal, resultNumber, same]
  | mapBody source parameter inside inductionHypothesis =>
      have same (element : Single) :
          result (environment.insert parameter (.number element)) (inside.fill node) =
            result (environment.insert parameter (.number element))
              (inside.fill found.toNode) := by
        have inScope := result_insert normal (apart parameter List.mem_cons_self) (.number element)
        exact inductionHypothesis
          (normal.insert parameter (Value.isNormal_toNode (.number element)))
          (inScope.trans evaluates) fun name member => apart name (List.mem_cons_of_mem _ member)
      simp only [Context.fill, result_map normal, value_mapElements, value_number_settled,
        resultNumber, same]
  | reduceBody source initial first second inside inductionHypothesis =>
      have same (accumulator element : Single) :
          result ((environment.insert first (.number accumulator)).insert second
              (.number element)) (inside.fill node) =
            result ((environment.insert first (.number accumulator)).insert second
              (.number element)) (inside.fill found.toNode) := by
        have firstNormal := normal.insert first (Value.isNormal_toNode (.number accumulator))
        have inFirst := result_insert normal (apart first List.mem_cons_self) (.number accumulator)
        have inSecond := result_insert firstNormal
          (apart second (List.mem_cons_of_mem _ List.mem_cons_self)) (.number element)
        exact inductionHypothesis
          (firstNormal.insert second (Value.isNormal_toNode (.number element)))
          ((inSecond.trans inFirst).trans evaluates) fun name member =>
            apart name (List.mem_cons_of_mem _ (List.mem_cons_of_mem _ member))
      simp only [Context.fill, result_reduce normal, value_reduceElements, folded_congr same]

/-- Putting an expression into a context, or the value that it has in the bindings
around the context, comes to the same, whatever kind is expected of the whole.  Values,
failures with all that their messages tell, and faults agree. -/
theorem referentially_transparent {depth : Nat} {environment : Environment}
    (normal : environment.IsNormal) (context : Context) {node : Node} {found : Value}
    (evaluates : (evaluate depth environment .anything node).value = .success found)
    (apart : forall name, name ∈ context.binds -> ¬ Free name node)
    (enough : (context.fill node).height + 3 ≤ depth) (expected : Kind) :
    (evaluate depth environment expected (context.fill node)).value =
      (evaluate depth environment expected (context.fill found.toNode)).value := by
  have lower := context.height_le_fill node
  have positive := node.height_pos
  have flat := height_toNode_le found
  have filled : (context.fill found.toNode).height ≤ (context.fill node).height + 1 :=
    context.height_fill_le (by omega)
  rw [evaluate_anything, value_eq_result normal (by omega)] at evaluates
  have same := result_fill context normal evaluates apart
  simp only [evaluate, Trial.value_andThen, value_eq_result normal
    (show (context.fill node).height + 2 ≤ depth by omega), value_eq_result normal
    (show (context.fill found.toNode).height + 2 ≤ depth by omega), same]

/-- For `n` among three and four, the sum of all elements of the hole times `n`. -/
def scaledSums : Context :=
  .mapBody (.sequence [.number (ofInteger 3), .number (ofInteger 4)]) ['n']
    (.reduceSource
      (.mapSource .hole
        (.mapper (.name ['x']) (.operation .times [.name ['x'], .name ['n']])))
      (.number Floating.zero)
      (.reducer (.name ['a']) (.name ['b']) (.operation .plus [.name ['a'], .name ['b']])))

/-- The numbers from one to `m`. -/
def upToM : Node := .range (.number Floating.one) (.name ['m'])

/-- The range stands under a function that binds `n`, and it is evaluated once for each
of two values of `n`.  It may be replaced by the list of its elements. -/
theorem referentially_transparent_scaledSums :
    let environment : Environment := Environment.insert [] ['m'] (.number (ofInteger 2))
    let found : Value := .sequence [Floating.one, ofInteger 2]
    environment.IsNormal ∧
    (evaluate depthLimit environment .anything upToM).value = .success found ∧
    (forall name, name ∈ scaledSums.binds -> ¬ Free name upToM) ∧
    (scaledSums.fill upToM).height + 3 ≤ depthLimit ∧
    (forall expected, (evaluate depthLimit environment expected (scaledSums.fill upToM)).value =
      (evaluate depthLimit environment expected (scaledSums.fill found.toNode)).value) ∧
    (evaluate depthLimit environment .sequence (scaledSums.fill upToM)).value =
      .success (.sequence [ofInteger 9, ofInteger 12]) := by
  intro environment found
  have normal : environment.IsNormal :=
    Environment.isNormal_nil.insert ['m'] (Value.isNormal_toNode (.number (ofInteger 2)))
  have evaluates : (evaluate depthLimit environment .anything upToM).value = .success found := by
    decide +kernel
  have apart : forall name, name ∈ scaledSums.binds -> ¬ Free name upToM := by
    intro name member free
    rw [List.mem_singleton.mp member] at free
    cases free with
    | start free => cases free
    | stop free => cases free
  have enough : (scaledSums.fill upToM).height + 3 ≤ depthLimit := by decide
  exact ⟨normal, evaluates, apart, enough,
    referentially_transparent normal scaledSums evaluates apart enough, by decide +kernel⟩

end Evaluation

end SequenceCalculator
