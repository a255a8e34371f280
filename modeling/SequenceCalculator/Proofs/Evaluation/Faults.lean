import SequenceCalculator.Proofs.Evaluation.Demands

namespace SequenceCalculator

/-!
# What makes a program end with a fault

Mistakes of a program are failures, which are values.  A program that was read
from a text can still end with a fault, and here it is said exactly when: one of
its statements comes upon a range whose bounds are numbers in order and not both
finite.  Numbers that are not finite are easily written down, since a numeral may
be too great, and they come out of arithmetic.

The bound on the depth of evaluation is the only other source of faults.  It is
met first without, and then with it.
-/

open Number Grammar

namespace Evaluation

/-!
## Expressions
-/

/-- The evaluation of an expression comes to another one, over any number of
expressions in between. -/
inductive Reaches (inner : Evaluator) : Environment -> Node -> Environment -> Node -> Prop where
  | here {environment : Environment} {node : Node} :
      Reaches inner environment node environment node
  | inside {environment scope last : Environment} {node part final : Node}
      (demands : Demands inner environment node scope part)
      (reaches : Reaches inner scope part last final) :
      Reaches inner environment node last final

/-- The evaluation of an expression comes to a range without finite bounds. -/
def MeetsUnbounded (environment : Environment) (node : Node) (cause : Fault) : Prop :=
  ∃ scope start stop, Reaches settled environment node scope (.range start stop) ∧
    Unbounded settled scope start stop cause

theorem MeetsUnbounded.cause_cases {environment : Environment} {node : Node} {cause : Fault}
    (meets : MeetsUnbounded environment node cause) :
    cause = .infiniteBound ∨ cause = .undefinedBound := by
  rcases meets with ⟨scope, start, stop, _, unbounded⟩
  exact unbounded.cause_cases

theorem result_ne_fault_of_isNormal {environment : Environment} {node : Node}
    (normal : node.IsNormal) (cause : Fault) : result environment node ≠ .fault cause := by
  rcases normal with ⟨value, rfl⟩
  rw [result_toNode]
  intro impossible
  cases impossible

theorem Demands.isNormal {inner : Evaluator} {environment scope : Environment} {node part : Node}
    (demands : Demands inner environment node scope part) (normal : node.IsNormal) :
    part.IsNormal := by
  rcases (Node.isNormal_iff node).mp normal with ⟨number, rfl⟩ | ⟨numbers, isSequence⟩
  · cases demands
  · cases demands with
    | @element before after node areNumbers =>
        rw [Node.sequence.injEq] at isSequence
        have member : part ∈ numbers.map Node.number := by
          rw [← isSequence]
          exact List.mem_append_right before List.mem_cons_self
        rcases List.mem_map.mp member with ⟨number, _, rfl⟩
        exact Value.isNormal_toNode (.number number)
    | _ => cases isSequence

/-- From a normal form only normal forms are reached. -/
theorem Reaches.isNormal {inner : Evaluator} {environment last : Environment} {node final : Node}
    (reaches : Reaches inner environment node last final) (normal : node.IsNormal) :
    final.IsNormal := by
  induction reaches with
  | here => exact normal
  | inside demands reaches inductionHypothesis =>
      exact inductionHypothesis (demands.isNormal normal)

/-- The induction follows what the expression comes to.  No range is reached
through a name, since the name stands for a normal form. -/
theorem Reaches.result_eq_fault {environment scope : Environment} {node start stop : Node}
    {cause : Fault} (reaches : Reaches settled environment node scope (.range start stop))
    (normal : environment.IsNormal) (formed : Formed node)
    (unbounded : Unbounded settled scope start stop cause) :
    result environment node = .fault cause := by
  generalize isRange : Node.range start stop = final at reaches
  induction reaches with
  | here =>
      subst isRange
      rw [result_eq_rule normal]
      exact unbounded.rule_eq_fault
  | inside demands reaches inductionHypothesis =>
      rcases demands.descends normal formed with ⟨scopeNormal, ⟨partFormed, _⟩ | partNormal⟩
      · rw [result_eq_rule normal]
        exact demands.rule_eq_fault
          (inductionHypothesis scopeNormal partFormed unbounded isRange)
      · subst isRange
        rcases (Node.isNormal_iff _).mp (reaches.isNormal partNormal) with
          ⟨_, impossible⟩ | ⟨_, impossible⟩
        · cases impossible
        · cases impossible

theorem meetsUnbounded_of_fault {environment : Environment} (normal : environment.IsNormal)
    {node : Node} (formed : Formed node) {cause : Fault}
    (stops : result environment node = .fault cause) : MeetsUnbounded environment node cause := by
  generalize isHeight : node.height = height
  induction height using Nat.strongRecOn generalizing environment node with
  | _ height inductionHypothesis =>
      rw [result_eq_rule normal] at stops
      rcases exists_demands_of_fault formed stops with
        ⟨scope, part, demands, stopsThere⟩ | ⟨start, stop, rfl, unbounded⟩
      · rcases demands.descends normal formed with ⟨scopeNormal, ⟨partFormed, lower⟩ | partNormal⟩
        · rcases inductionHypothesis part.height (by omega) scopeNormal partFormed stopsThere rfl
            with ⟨last, start, stop, reaches, unbounded⟩
          exact ⟨last, start, stop, .inside demands reaches, unbounded⟩
        · exact absurd stopsThere (result_ne_fault_of_isNormal partNormal cause)
      · exact ⟨environment, start, stop, .here, unbounded⟩

/-- An expression that was read ends with a fault exactly when its evaluation comes
to a range without finite bounds. -/
theorem result_eq_fault_iff {environment : Environment} (normal : environment.IsNormal)
    {node : Node} (formed : Formed node) (cause : Fault) :
    result environment node = .fault cause ↔ MeetsUnbounded environment node cause := by
  constructor
  · exact meetsUnbounded_of_fault normal formed
  · rintro ⟨scope, start, stop, reaches, unbounded⟩
    exact reaches.result_eq_fault normal formed unbounded

/-- With too little room for the depth of an expression there is one more fault and
no other. -/
theorem value_fault_cases {depth : Nat} {environment : Environment} (normal : environment.IsNormal)
    {node : Node} (formed : Formed node ∨ node.IsNormal) {cause : Fault}
    (stops : (value depth environment node).value = .fault cause) :
    cause = .tooDeep ∨ cause = .infiniteBound ∨ cause = .undefinedBound := by
  induction depth generalizing environment node with
  | zero => cases stops; exact .inl rfl
  | succ depth inductionHypothesis =>
      rcases formed with formed | ⟨found, rfl⟩
      · rw [value, Trial.value_afterPause] at stops
        rcases exists_demands_of_fault formed stops with
          ⟨scope, part, demands, stopsThere⟩ | ⟨start, stop, rfl, unbounded⟩
        · rcases demands.descends normal formed with ⟨scopeNormal, shape⟩
          exact inductionHypothesis scopeNormal (shape.imp_left And.left) stopsThere
        · exact .inr unbounded.cause_cases
      · rcases depth with _ | depth
        · cases found with
          | number number => cases stops
          | sequence elements =>
              cases elements with
              | nil => cases stops
              | cons element rest => cases stops; exact .inl rfl
        · rw [value_toNode, value_normalRun] at stops
          cases stops

/-!
## Display
-/

/-- Whether an expression is evaluated before it is displayed. -/
def isEvaluatedFirst : Node -> Bool
  | .number _ => false
  | .name _ => false
  | .sequence _ => false
  | _ => true

theorem display_of_isEvaluatedFirst {node : Node} (first : isEvaluatedFirst node = true)
    (depth : Nat) (environment : Environment) :
    display (depth + 1) environment node = (value depth environment node).map Value.text := by
  cases node with
  | number number => cases first
  | name text => cases first
  | sequence elements => cases first
  | _ => rfl

/-- Beyond the height of the expression the bound on the depth has no effect on its
display. -/
theorem display_depth_irrelevant {depth more : Nat} {environment : Environment}
    (normal : environment.IsNormal) {node : Node} (enough : node.height + 3 ≤ depth)
    (enoughMore : node.height + 3 ≤ more) :
    display depth environment node = display more environment node := by
  induction depth generalizing more node with
  | zero => omega
  | succ depth inductionHypothesis =>
      obtain ⟨more, rfl⟩ : ∃ fewer, more = fewer + 1 := ⟨more - 1, by omega⟩
      by_cases first : isEvaluatedFirst node = true
      · have same : value depth environment node = value more environment node :=
          value_depth_irrelevant normal (by omega) (by omega)
        rw [display_of_isEvaluatedFirst first, display_of_isEvaluatedFirst first, same]
      · cases node with
        | number number => rfl
        | name text =>
            rw [display, display]
            cases found : environment.find? text with
            | none => rfl
            | some bound =>
                rcases normal text bound found with ⟨value, rfl⟩
                simp only [Node.height] at enough enoughMore
                obtain ⟨deeper, rfl⟩ : ∃ deeper, depth = deeper + 2 := ⟨depth - 2, by omega⟩
                obtain ⟨deeperMore, rfl⟩ : ∃ deeper, more = deeper + 2 := ⟨more - 2, by omega⟩
                exact (display_toNode_eq_succeed deeper environment value).trans
                  (display_toNode_eq_succeed deeperMore environment value).symm
        | sequence elements =>
            rw [display, display]
            congr 1
            apply Trial.traverse_congr
            intro element member
            have lower := Node.height_lt_sequence member
            exact inductionHypothesis (by omega) (by omega)
        | _ => exact absurd rfl first

/-- What an expression is displayed as when there is enough room for its depth. -/
def displayed (environment : Environment) (node : Node) : Outcome Failure Text :=
  (display (node.height + 3) environment node).value

theorem display_eq_displayed {depth : Nat} {environment : Environment}
    (normal : environment.IsNormal) {node : Node} (enough : node.height + 3 ≤ depth) :
    (display depth environment node).value = displayed environment node := by
  rw [displayed, display_depth_irrelevant normal enough (Nat.le_refl _)]

theorem displayed_of_isEvaluatedFirst {environment : Environment} (normal : environment.IsNormal)
    {node : Node} (first : isEvaluatedFirst node = true) :
    displayed environment node = (result environment node).map Value.text := by
  rw [displayed, display_of_isEvaluatedFirst first, Trial.value_map, value_eq_result normal]
  exact Nat.le_refl _

theorem displayed_sequence {environment : Environment} (normal : environment.IsNormal)
    (elements : List Node) :
    displayed environment (.sequence elements) =
      (Outcome.traverse (displayed environment) elements).map Value.braces := by
  have each : Trial.traverse (display ((Node.sequence elements).height + 2) environment) elements =
      Trial.traverse (fun element => display (element.height + 3) environment element)
        elements := by
    apply Trial.traverse_congr
    intro element member
    have lower := Node.height_lt_sequence member
    exact display_depth_irrelevant normal (by omega) (Nat.le_refl _)
  rw [displayed, display, Trial.value_map, each, Trial.value_traverse]
  rfl

/-- Displaying an expression comes to evaluate another one.  Elements of listed
sequences are displayed in turn, as long as those before them have texts. -/
inductive Shows (environment : Environment) : Node -> Node -> Prop where
  | evaluated {node : Node} (first : isEvaluatedFirst node = true) : Shows environment node node
  | element {before after : List Node} {node part : Node}
      (texts : forall other, other ∈ before -> ∃ text, displayed environment other = .success text)
      (shows_ : Shows environment node part) :
      Shows environment (.sequence (before ++ node :: after)) part

theorem Shows.displayed_eq_fault {environment : Environment} (normal : environment.IsNormal)
    {node part : Node} {cause : Fault} (shows_ : Shows environment node part)
    (stops : result environment part = .fault cause) :
    displayed environment node = .fault cause := by
  induction shows_ with
  | evaluated first => rw [displayed_of_isEvaluatedFirst normal first, stops, Outcome.map_fault]
  | @element before after node part texts shows_ inductionHypothesis =>
      rw [displayed_sequence normal, Outcome.map_eq_fault_iff, Outcome.traverse_eq_fault_iff]
      exact ⟨before, node, after, rfl, texts, inductionHypothesis stops⟩

theorem Shows.formed {environment : Environment} {node part : Node}
    (shows_ : Shows environment node part) (formed : Formed node) : Formed part := by
  induction shows_ with
  | evaluated first => exact formed
  | element texts shows_ inductionHypothesis =>
      cases formed with
      | sequence each =>
          exact inductionHypothesis (each _ (List.mem_append_right _ List.mem_cons_self))

theorem exists_shows_of_fault {environment : Environment} (normal : environment.IsNormal)
    {node : Node} (formed : Formed node) {cause : Fault}
    (stops : displayed environment node = .fault cause) :
    ∃ part, Shows environment node part ∧ result environment part = .fault cause := by
  induction formed with
  | number defined => cases stops
  | name spelled =>
      rw [displayed, display] at stops
      cases found : environment.find? spelled.letters with
      | none => rw [found] at stops; cases stops
      | some bound =>
          rcases normal _ _ found with ⟨value, rfl⟩
          simp only [found, Node.height, display_toNode] at stops
          cases stops
  | sequence each inductionHypothesis =>
      rw [displayed_sequence normal, Outcome.map_eq_fault_iff,
        Outcome.traverse_eq_fault_iff] at stops
      rcases stops with ⟨before, element, after, rfl, texts, stopsThere⟩
      rcases inductionHypothesis element (List.mem_append_right _ List.mem_cons_self) stopsThere
        with ⟨part, shows_, stopsAtPart⟩
      exact ⟨part, .element texts shows_, stopsAtPart⟩
  | _ =>
      rw [displayed_of_isEvaluatedFirst normal rfl, Outcome.map_eq_fault_iff] at stops
      exact ⟨_, .evaluated rfl, stops⟩

theorem display_fault_cases {depth : Nat} {environment : Environment}
    (normal : environment.IsNormal) {node : Node} (formed : Formed node ∨ node.IsNormal)
    {cause : Fault} (stops : (display depth environment node).value = .fault cause) :
    cause = .tooDeep ∨ cause = .infiniteBound ∨ cause = .undefinedBound := by
  induction depth generalizing node with
  | zero => cases stops; exact .inl rfl
  | succ depth inductionHypothesis =>
      by_cases first : isEvaluatedFirst node = true
      · rw [display_of_isEvaluatedFirst first, Trial.value_map, Outcome.map_eq_fault_iff] at stops
        exact value_fault_cases normal formed stops
      · cases node with
        | number number => cases stops
        | name text =>
            rw [display] at stops
            cases found : environment.find? text with
            | none => rw [found] at stops; cases stops
            | some bound =>
                rw [found] at stops
                exact inductionHypothesis (.inr (normal _ _ found)) stops
        | sequence elements =>
            rw [display, Trial.value_map, Outcome.map_eq_fault_iff, Trial.value_traverse,
              Outcome.traverse_eq_fault_iff] at stops
            rcases stops with ⟨before, element, after, rfl, _, stopsThere⟩
            have member : element ∈ before ++ element :: after :=
              List.mem_append_right before List.mem_cons_self
            refine inductionHypothesis ?_ stopsThere
            rcases formed with formed | isNormal
            · cases formed with
              | sequence each => exact .inl (each element member)
            · rcases (Node.isNormal_iff _).mp isNormal with ⟨_, impossible⟩ | ⟨numbers, same⟩
              · cases impossible
              · rw [Node.sequence.injEq] at same
                rw [same] at member
                rcases List.mem_map.mp member with ⟨number, _, rfl⟩
                exact .inr (Value.isNormal_toNode (.number number))
        | _ => exact absurd rfl first

end Evaluation

end SequenceCalculator
