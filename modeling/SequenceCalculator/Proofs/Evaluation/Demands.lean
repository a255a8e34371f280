import SequenceCalculator.Proofs.Evaluation.Kinds
import SequenceCalculator.Proofs.Evaluation.Parts
import SequenceCalculator.Proofs.Grammar.Shape

namespace SequenceCalculator

/-!
# Which expressions an evaluation comes to

Evaluating an expression means evaluating expressions inside it, in order, until
one of them has no value of the kind that is wanted.  `Evaluation.Demands` says
which ones that are, and in which scope.  It is stated over an arbitrary evaluator
for the expressions inside, so it serves the bounded evaluator at every depth as
well as the settled one.

The main result is about faults.  Of an expression of the shape that the grammar
produces, there are only two ways to end with a fault: something it comes to ends
so, or it is a range whose bounds are numbers in order and not both finite.
-/

open Number Grammar

namespace Number

/-- Why a number has no integer part. -/
def boundFault : Single -> Option Fault
  | .nan => some .undefinedBound
  | .infinite _ => some .infiniteBound
  | .finite _ _ => none

theorem rangeBound_eq_error_iff (bound : Single) (cause : Fault) :
    rangeBound bound = .error cause ↔ boundFault bound = some cause := by
  cases bound <;> simp [rangeBound, boundFault]

theorem isFinite_iff (bound : Single) :
    bound.isFinite = true ↔ ∃ whole, rangeBound bound = .ok whole := by
  cases bound <;> simp [rangeBound, Floating.isFinite]

/-- The first bound without an integer part decides. -/
theorem integerRange_eq_error_iff (start stop : Single) (cause : Fault) :
    integerRange start stop = .error cause ↔ boundFault start = some cause ∨
      start.isFinite = true ∧ boundFault stop = some cause := by
  simp only [← rangeBound_eq_error_iff, isFinite_iff]
  unfold integerRange
  cases rangeBound start with
  | error other => simp [bind, Except.bind]
  | ok first =>
      cases rangeBound stop with
      | error other => simp [bind, Except.bind]
      | ok last => simp [bind, Except.bind]

theorem boundFault_cases {bound : Single} {cause : Fault} (lacks : boundFault bound = some cause) :
    cause = .infiniteBound ∨ cause = .undefinedBound := by
  cases bound with
  | nan => cases lacks; exact .inr rfl
  | infinite negative => cases lacks; exact .inl rfl
  | finite negative magnitude => cases lacks

end Number

namespace Evaluation

section Parts

variable {inner : Evaluator} {environment : Environment} {node : Node} {cause : Fault}

theorem number_eq_fault_iff :
    (number inner environment node).value = .fault cause ↔
      (inner environment node).value = .fault cause := by
  rw [number, Trial.value_andThen]
  cases (inner environment node).value with
  | success found => cases found <;> simp [Value.expectNumber]
  | failure reason => simp
  | fault other => simp

theorem number_eq_success_iff {found : Single} :
    (number inner environment node).value = .success found ↔
      (inner environment node).value = .success (.number found) := by
  rw [number, Trial.value_andThen]
  cases (inner environment node).value with
  | success value => cases value <;> simp [Value.expectNumber]
  | failure reason => simp
  | fault other => simp

theorem elements_eq_fault_iff :
    (elements inner environment node).value = .fault cause ↔
      (inner environment node).value = .fault cause := by
  rw [elements, Trial.value_andThen]
  cases (inner environment node).value with
  | success found => cases found <;> simp [Value.expectSequence]
  | failure reason => simp
  | fault other => simp

theorem elements_eq_success_iff {found : List Single} :
    (elements inner environment node).value = .success found ↔
      (inner environment node).value = .success (.sequence found) := by
  rw [elements, Trial.value_andThen]
  cases (inner environment node).value with
  | success value => cases value <;> simp [Value.expectSequence]
  | failure reason => simp
  | fault other => simp

/-- Everything in a list evaluates to a number. -/
def AllNumbers (inner : Evaluator) (environment : Environment) (nodes : List Node) : Prop :=
  forall node, node ∈ nodes -> ∃ found, (inner environment node).value = .success (.number found)

theorem numbers_eq_fault_iff {nodes : List Node} :
    (numbers inner environment nodes).value = .fault cause ↔
      ∃ before node after, nodes = before ++ node :: after ∧
        AllNumbers inner environment before ∧ (inner environment node).value = .fault cause := by
  simp only [numbers, Trial.value_traverse, Outcome.traverse_eq_fault_iff, number_eq_success_iff,
    number_eq_fault_iff, AllNumbers]

/-- Only an operator without operands has nothing to combine. -/
theorem combine_ne_fault (operator : Operator) (base : Single) (rest : List Single) :
    combine operator (base :: rest) ≠ .fault cause := by
  cases operator with
  | plus => intro impossible; cases impossible
  | minus => intro impossible; cases impossible
  | times => intro impossible; cases impossible
  | power => intro impossible; cases impossible
  | _ =>
      rw [combine]
      split <;> simp

/-- Arithmetic itself never ends with a fault. -/
theorem operation_eq_fault_iff (operator : Operator) {operands : List Node}
    (nonempty : operands ≠ []) :
    (operation inner environment operator operands).value = .fault cause ↔
      (numbers inner environment operands).value = .fault cause := by
  obtain ⟨base, rest, rfl⟩ := List.exists_cons_of_ne_nil nonempty
  rw [value_operation]
  constructor
  · intro stops
    rcases Outcome.bind_eq_fault stops with here | ⟨found, isFound, combines⟩
    · exact here
    · rw [value_numbers, Outcome.traverse] at isFound
      rcases Outcome.bind_eq_success isFound with ⟨first, _, others⟩
      rcases Outcome.map_eq_success others with ⟨later, _, rfl⟩
      exact absurd combines (combine_ne_fault operator first later)
  · intro stops
    rw [stops, Outcome.bind_fault]

/-- Bounds in order, one of which has no integer part, are the one thing that no
interval can be made of. -/
theorem interval_eq_fault_iff {first last : Single} :
    interval first last = .fault cause ↔ last.below first = false ∧
      (boundFault first = some cause ∨ first.isFinite = true ∧ boundFault last = some cause) := by
  rw [← integerRange_eq_error_iff, interval]
  cases last.below first with
  | true => simp
  | false =>
      simp only [Bool.false_eq_true, if_false, true_and, Outcome.map_eq_fault_iff]
      cases integerRange first last <;> simp [Outcome.ofExcept]

/-- A fold ends with a fault at the first element at which the body does. -/
theorem folded_eq_fault_iff {first second : Text} {body : Node} {start : Single}
    {source : List Single} :
    folded inner environment first second body start source = .fault cause ↔
      ∃ before element after accumulator, source = before ++ element :: after ∧
        folded inner environment first second body start before = .success accumulator ∧
        (inner ((environment.insert first (.number accumulator)).insert second (.number element))
          body).value = .fault cause := by
  constructor
  · intro stops
    induction source generalizing start with
    | nil => cases stops
    | cons element rest inductionHypothesis =>
        rw [folded] at stops
        rcases Outcome.bind_eq_fault stops with here | ⟨next, found, later⟩
        · exact ⟨[], element, rest, start, rfl, rfl, number_eq_fault_iff.mp here⟩
        · rcases inductionHypothesis later with
            ⟨before, stopped, after, accumulator, rfl, folds, stopsThere⟩
          refine ⟨element :: before, stopped, after, accumulator, rfl, ?_, stopsThere⟩
          rw [folded, found, Outcome.bind_success, folds]
  · rintro ⟨before, element, after, accumulator, rfl, folds, stops⟩
    induction before generalizing start with
    | nil =>
        cases folds
        rw [List.nil_append, folded, number_eq_fault_iff.mpr stops, Outcome.bind_fault]
    | cons other rest inductionHypothesis =>
        rw [folded] at folds
        rcases Outcome.bind_eq_success folds with ⟨next, found, foldsRest⟩
        rw [List.cons_append, folded, found, Outcome.bind_success]
        exact inductionHypothesis foldsRest

end Parts

/-- The evaluation of an expression comes to evaluate another one in some scope. -/
inductive Demands (inner : Evaluator) (environment : Environment) :
    Node -> Environment -> Node -> Prop where
  | binding {text : Text} {bound : Node} (found : environment.find? text = some bound)
      (composed : forall value, bound ≠ .number value) :
      Demands inner environment (.name text) environment bound
  | operand {operator : Operator} {before after : List Node} {node : Node}
      (numbers : AllNumbers inner environment before) :
      Demands inner environment (.operation operator (before ++ node :: after)) environment node
  | element {before after : List Node} {node : Node}
      (numbers : AllNumbers inner environment before) :
      Demands inner environment (.sequence (before ++ node :: after)) environment node
  | start {start stop : Node} : Demands inner environment (.range start stop) environment start
  | stop {start stop : Node} {first : Single}
      (starts : (inner environment start).value = .success (.number first)) :
      Demands inner environment (.range start stop) environment stop
  | mapSource {source function : Node} :
      Demands inner environment (.map source function) environment source
  /-- The body of a map, at an element behind those at which it has given numbers. -/
  | mapBody {source body : Node} {parameter : Text} {before after : List Single} {element : Single}
      (takes : (inner environment source).value = .success (.sequence (before ++ element :: after)))
      (gives : forall other, other ∈ before -> ∃ found,
        (inner (environment.insert parameter (.number other)) body).value =
          .success (.number found)) :
      Demands inner environment (.map source (.mapper (.name parameter) body))
        (environment.insert parameter (.number element)) body
  | reduceSource {source primer function : Node} :
      Demands inner environment (.reduce source primer function) environment source
  | primer {source primer function : Node} {elements : List Single}
      (takes : (inner environment source).value = .success (.sequence elements)) :
      Demands inner environment (.reduce source primer function) environment primer
  /-- The body of a reduce, at an element behind those that were folded. -/
  | reduceBody {source primer body : Node} {first second : Text} {before after : List Single}
      {element start accumulator : Single}
      (takes : (inner environment source).value = .success (.sequence (before ++ element :: after)))
      (starts : (inner environment primer).value = .success (.number start))
      (folds : folded inner environment first second body start before = .success accumulator) :
      Demands inner environment
        (.reduce source primer (.reducer (.name first) (.name second) body))
        ((environment.insert first (.number accumulator)).insert second (.number element)) body

/-- The bounds of a range are numbers, the first of them is not the greater one,
and one of them has no integer part. -/
def Unbounded (inner : Evaluator) (environment : Environment) (start stop : Node)
    (cause : Fault) : Prop :=
  ∃ first last, (inner environment start).value = .success (.number first) ∧
    (inner environment stop).value = .success (.number last) ∧ last.below first = false ∧
    (boundFault first = some cause ∨ first.isFinite = true ∧ boundFault last = some cause)

theorem Unbounded.cause_cases {inner : Evaluator} {environment : Environment} {start stop : Node}
    {cause : Fault} (unbounded : Unbounded inner environment start stop cause) :
    cause = .infiniteBound ∨ cause = .undefinedBound := by
  rcases unbounded with ⟨first, last, _, _, _, lacks | ⟨_, lacks⟩⟩
  · exact boundFault_cases lacks
  · exact boundFault_cases lacks

section Faults

variable {inner : Evaluator} {environment : Environment} {cause : Fault}

/-- What an expression comes to takes the whole with it when it ends with a fault. -/
theorem Demands.rule_eq_fault {node part : Node} {scope : Environment}
    (demands : Demands inner environment node scope part)
    (stops : (inner scope part).value = .fault cause) :
    (rule inner environment node).value = .fault cause := by
  cases demands with
  | @binding text bound found composed =>
      simp only [rule, found]
      exact stops
  | @operand operator before after node areNumbers =>
      rw [rule, operation_eq_fault_iff operator (by simp), numbers_eq_fault_iff]
      exact ⟨before, part, after, rfl, areNumbers, stops⟩
  | @element before after node areNumbers =>
      rw [rule, Trial.value_map, Outcome.map_eq_fault_iff, numbers_eq_fault_iff]
      exact ⟨before, part, after, rfl, areNumbers, stops⟩
  | start =>
      rw [rule, value_range, number_eq_fault_iff.mpr stops, Outcome.bind_fault]
  | stop starts =>
      rw [rule, value_range, number_eq_success_iff.mpr starts, Outcome.bind_success,
        number_eq_fault_iff.mpr stops, Outcome.bind_fault]
  | mapSource =>
      rw [rule, Trial.value_andThen, elements_eq_fault_iff.mpr stops, Outcome.bind_fault]
  | @mapBody source body parameter before after element takes gives =>
      rw [rule, Trial.value_andThen, elements_eq_success_iff.mpr takes, Outcome.bind_success,
        Trial.value_map, Outcome.map_eq_fault_iff, value_mapElements, Outcome.map_eq_fault_iff,
        Outcome.traverse_eq_fault_iff]
      refine ⟨before, element, after, rfl, ?_, number_eq_fault_iff.mpr stops⟩
      intro other member
      rcases gives other member with ⟨found, isFound⟩
      exact ⟨found, number_eq_success_iff.mpr isFound⟩
  | reduceSource =>
      rw [rule, Trial.value_andThen, elements_eq_fault_iff.mpr stops, Outcome.bind_fault]
  | primer takes =>
      rw [rule, Trial.value_andThen, elements_eq_success_iff.mpr takes, Outcome.bind_success,
        Trial.value_andThen, number_eq_fault_iff.mpr stops, Outcome.bind_fault]
  | @reduceBody source primer body first second before after element start accumulator takes starts
      folds =>
      rw [rule, Trial.value_andThen, elements_eq_success_iff.mpr takes, Outcome.bind_success,
        Trial.value_andThen, number_eq_success_iff.mpr starts, Outcome.bind_success,
        Trial.value_map, Outcome.map_eq_fault_iff, value_reduceElements, folded_eq_fault_iff]
      exact ⟨before, element, after, accumulator, rfl, folds, stops⟩

theorem Unbounded.rule_eq_fault {start stop : Node}
    (unbounded : Unbounded inner environment start stop cause) :
    (rule inner environment (.range start stop)).value = .fault cause := by
  rcases unbounded with ⟨first, last, starts, stops, notFinite⟩
  rw [rule, value_range, number_eq_success_iff.mpr starts, Outcome.bind_success,
    number_eq_success_iff.mpr stops, Outcome.bind_success, interval_eq_fault_iff]
  exact notFinite

/-- There is no other way to end with a fault. -/
theorem exists_demands_of_fault {node : Node} (formed : Formed node)
    (stops : (rule inner environment node).value = .fault cause) :
    (∃ scope part, Demands inner environment node scope part ∧
      (inner scope part).value = .fault cause) ∨
    ∃ start stop, node = .range start stop ∧ Unbounded inner environment start stop cause := by
  cases formed with
  | number defined => cases stops
  | name spelled =>
      simp only [rule] at stops
      split at stops
      · cases stops
      · cases stops
      · next bound composed found =>
        exact .inl ⟨_, _, .binding found (fun value same => composed value same), stops⟩
  | operation operator several each =>
      rw [rule, operation_eq_fault_iff operator (by rintro rfl; cases several),
        numbers_eq_fault_iff] at stops
      rcases stops with ⟨before, part, after, rfl, areNumbers, stops⟩
      exact .inl ⟨_, part, .operand areNumbers, stops⟩
  | range first last =>
      rw [rule, value_range] at stops
      rcases Outcome.bind_eq_fault stops with here | ⟨start, starts, later⟩
      · exact .inl ⟨_, _, .start, number_eq_fault_iff.mp here⟩
      rcases Outcome.bind_eq_fault later with here | ⟨stop, ends, last⟩
      · exact .inl ⟨_, _, .stop (number_eq_success_iff.mp starts), number_eq_fault_iff.mp here⟩
      · exact .inr ⟨_, _, rfl, start, stop, number_eq_success_iff.mp starts,
          number_eq_success_iff.mp ends, interval_eq_fault_iff.mp last⟩
  | sequence each =>
      rw [rule, Trial.value_map, Outcome.map_eq_fault_iff, numbers_eq_fault_iff] at stops
      rcases stops with ⟨before, part, after, rfl, areNumbers, stops⟩
      exact .inl ⟨_, part, .element areNumbers, stops⟩
  | map takes parameter gives =>
      rw [rule, Trial.value_andThen] at stops
      rcases Outcome.bind_eq_fault stops with here | ⟨source, takes, later⟩
      · exact .inl ⟨_, _, .mapSource, elements_eq_fault_iff.mp here⟩
      rw [elements_eq_success_iff] at takes
      rw [Trial.value_map, Outcome.map_eq_fault_iff, value_mapElements, Outcome.map_eq_fault_iff,
        Outcome.traverse_eq_fault_iff] at later
      rcases later with ⟨before, element, after, rfl, gave, stops⟩
      simp only [number_eq_success_iff, number_eq_fault_iff] at gave stops
      exact .inl ⟨_, _, .mapBody takes gave, stops⟩
  | reduce takes starts first second gives =>
      rw [rule, Trial.value_andThen] at stops
      rcases Outcome.bind_eq_fault stops with here | ⟨source, takes, later⟩
      · exact .inl ⟨_, _, .reduceSource, elements_eq_fault_iff.mp here⟩
      rw [elements_eq_success_iff] at takes
      rw [Trial.value_andThen] at later
      rcases Outcome.bind_eq_fault later with here | ⟨start, starts, last⟩
      · exact .inl ⟨_, _, .primer takes, number_eq_fault_iff.mp here⟩
      rw [number_eq_success_iff] at starts
      rw [Trial.value_map, Outcome.map_eq_fault_iff, value_reduceElements,
        folded_eq_fault_iff] at last
      rcases last with ⟨before, element, after, accumulator, rfl, folds, stops⟩
      exact .inl ⟨_, _, .reduceBody takes starts folds, stops⟩

/-- Functions bind numbers, so what is evaluated is evaluated in bindings of normal forms. -/
theorem Demands.isNormal_scope {node part : Node} {scope : Environment}
    (demands : Demands inner environment node scope part) (normal : environment.IsNormal) :
    scope.IsNormal := by
  cases demands with
  | mapBody => exact normal.insert_number _ _
  | reduceBody => exact (normal.insert_number _ _).insert_number _ _
  | _ => exact normal

/-- Apart from what a name is bound to, an expression comes only to lower ones of
the same shape, in scopes that bind normal forms as well. -/
theorem Demands.descends {node part : Node} {scope : Environment}
    (demands : Demands inner environment node scope part) (normal : environment.IsNormal)
    (formed : Formed node) :
    scope.IsNormal ∧ (Formed part ∧ part.height < node.height ∨ part.IsNormal) := by
  refine ⟨demands.isNormal_scope normal, ?_⟩
  cases demands with
  | binding found composed => exact .inr (normal _ _ found)
  | @operand operator before after node areNumbers =>
      cases formed with
      | operation operator several each =>
          have member : part ∈ before ++ part :: after :=
            List.mem_append_right before List.mem_cons_self
          exact .inl ⟨each part member, Node.height_lt_operation member⟩
  | @element before after node areNumbers =>
      cases formed with
      | sequence each =>
          have member : part ∈ before ++ part :: after :=
            List.mem_append_right before List.mem_cons_self
          exact .inl ⟨each part member, Node.height_lt_sequence member⟩
  | start =>
      cases formed with
      | range first last => exact .inl ⟨first, by rw [Node.height]; omega⟩
  | stop starts =>
      cases formed with
      | range first last => exact .inl ⟨last, by rw [Node.height]; omega⟩
  | mapSource =>
      cases formed with
      | map takes parameter gives => exact .inl ⟨takes, by rw [Node.height]; omega⟩
  | mapBody took gave =>
      cases formed with
      | map takes parameter gives => exact .inl ⟨gives, by simp only [Node.height]; omega⟩
  | reduceSource =>
      cases formed with
      | reduce takes starts first second gives => exact .inl ⟨takes, by rw [Node.height]; omega⟩
  | primer took =>
      cases formed with
      | reduce takes starts first second gives => exact .inl ⟨starts, by rw [Node.height]; omega⟩
  | reduceBody took started folds =>
      cases formed with
      | reduce takes starts first second gives =>
          exact .inl ⟨gives, by simp only [Node.height]; omega⟩

end Faults

end Evaluation

end SequenceCalculator
