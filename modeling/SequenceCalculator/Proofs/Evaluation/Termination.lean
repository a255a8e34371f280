import SequenceCalculator.Proofs.Evaluation.Cancellation
import SequenceCalculator.Proofs.Evaluation.FreeNames
import SequenceCalculator.Proofs.Evaluation.ProgramFaults

namespace SequenceCalculator

/-!
# Evaluation ends

An evaluation calls for others: of what is inside its expression, and of what a name is
bound to.  Names are why this might go on forever, and a name that is bound to itself does
so.  In bindings of normal forms a name leads to a number or to a flat sequence, and from
there it is at most one step more.  So however evaluations call for one another, they are
never nested deeper than the expression is high, plus one.

The evaluator that is given a bound on the depth reports when it has too little of it, and
then there are as many evaluations inside one another as the bound allows.  With two
levels more than the height of the expression that never happens, and with three none of
its display runs out either.  Room beyond that changes nothing, the pauses included.

Nothing is assumed of the trees.  They need not come from a text.
-/

open Number

namespace Trial

/-- A fold that ends with a fault has taken a step that does. -/
theorem exists_of_fold_eq_fault {ε α β : Type} {step : β -> α -> Trial ε β} {given : β}
    {items : List α} {cause : Fault} (stops : (fold step given items).value = .fault cause) :
    ∃ given item, (step given item).value = .fault cause := by
  induction items generalizing given with
  | nil => cases stops
  | cons item items inductionHypothesis =>
      rw [fold, value_andThen] at stops
      rcases Outcome.bind_eq_fault stops with here | ⟨next, _, later⟩
      · exact ⟨given, item, here⟩
      · exact inductionHypothesis later

end Trial

namespace Evaluation

/-- The evaluation of an expression may call for another one: of what a name is bound to,
or of something inside the expression in its scope. -/
inductive Calls (environment : Environment) : Node -> Environment -> Node -> Prop where
  | binding {text : Text} {bound : Node} (found : environment.find? text = some bound) :
      Calls environment (.name text) environment bound
  | inside {node part : Node} {enter : Environment -> Environment}
      (inside : Inside node enter part) : Calls environment node (enter environment) part

/-- A number of evaluations, each called for by the one before, the first of them by the
evaluation of the given expression. -/
inductive Nested : Nat -> Environment -> Node -> Prop where
  | none (environment : Environment) (node : Node) : Nested 0 environment node
  | call {count : Nat} {environment scope : Environment} {node part : Node}
      (calls : Calls environment node scope part) (nested : Nested count scope part) :
      Nested (count + 1) environment node

/-- Below a value there is room for its elements only. -/
theorem Nested.le_one {count : Nat} {environment : Environment} {bound : Value}
    (nested : Nested count environment bound.toNode) : count ≤ 1 := by
  cases nested with
  | none => exact Nat.zero_le 1
  | @call count _ scope _ part calls nested =>
      have flat : ∃ number, part = .number number := by
        cases bound with
        | number number => rcases calls with _ | ⟨inside⟩; cases inside
        | sequence elements =>
            rcases calls with _ | ⟨inside⟩
            cases inside with
            | element member =>
                rcases List.mem_map.mp member with ⟨number, _, rfl⟩
                exact ⟨number, rfl⟩
      rcases flat with ⟨number, rfl⟩
      cases nested with
      | none => exact Nat.le_refl 1
      | call calls _ => rcases calls with _ | ⟨inside⟩; cases inside

/-- In bindings of normal forms evaluations are not nested much deeper than expressions. -/
theorem Nested.le_height {count : Nat} {environment : Environment} {node : Node}
    (nested : Nested count environment node) (normal : environment.IsNormal) :
    count ≤ node.height + 1 := by
  induction nested with
  | none => exact Nat.zero_le _
  | @call count environment scope node part calls nested inductionHypothesis =>
      cases calls with
      | @binding text _ found =>
          rcases normal text part found with ⟨bound, rfl⟩
          exact Nat.succ_le_succ nested.le_one
      | inside inside =>
          have below := inductionHypothesis (inside.isNormal normal)
          have lower := inside.height_lt
          omega

section Rules

variable {inner : Evaluator} {environment : Environment}

theorem mapperParts_ne_tooDeep {function : Node} {cause : Fault}
    (refuses : mapperParts function = .error cause) : cause ≠ .tooDeep := by
  rintro rfl
  cases function with
  | mapper parameter body => cases parameter <;> cases refuses
  | _ => cases refuses

theorem reducerParts_ne_tooDeep {function : Node} {cause : Fault}
    (refuses : reducerParts function = .error cause) : cause ≠ .tooDeep := by
  rintro rfl
  cases function with
  | reducer first second body => cases first <;> cases second <;> cases refuses
  | _ => cases refuses

theorem combine_ne_tooDeep (operator : Operator) (numbers : List Single) :
    combine operator numbers ≠ .fault .tooDeep := by
  cases numbers with
  | nil => cases operator <;> rintro ⟨⟩
  | cons base rest => exact combine_ne_fault operator base rest

/-- An evaluation has too little room only if one that it calls for has. -/
theorem exists_calls_of_tooDeep {node : Node}
    (stops : (rule inner environment node).value = .fault .tooDeep) :
    ∃ scope part, Calls environment node scope part ∧
      (inner scope part).value = .fault .tooDeep := by
  cases node with
  | name text =>
      simp only [rule] at stops
      split at stops
      · cases stops
      · cases stops
      · next bound _ found => exact ⟨environment, bound, .binding found, stops⟩
  | operation operator operands =>
      rw [rule, value_operation] at stops
      rcases Outcome.bind_eq_fault stops with here | ⟨numbers, _, combines⟩
      · rcases numbers_eq_fault_iff.mp here with ⟨before, operand, after, rfl, _, stopsThere⟩
        have member : operand ∈ before ++ operand :: after :=
          List.mem_append_right before List.mem_cons_self
        exact ⟨_, operand, .inside (.operand member), stopsThere⟩
      · exact absurd combines (combine_ne_tooDeep operator numbers)
  | sequence elements =>
      rw [rule, Trial.value_map, Outcome.map_eq_fault_iff] at stops
      rcases numbers_eq_fault_iff.mp stops with ⟨before, element, after, rfl, _, stopsThere⟩
      have member : element ∈ before ++ element :: after :=
        List.mem_append_right before List.mem_cons_self
      exact ⟨_, element, .inside (.element member), stopsThere⟩
  | range start stop =>
      rw [rule, value_range] at stops
      rcases Outcome.bind_eq_fault stops with here | ⟨first, _, later⟩
      · exact ⟨_, start, .inside .start, number_eq_fault_iff.mp here⟩
      rcases Outcome.bind_eq_fault later with here | ⟨last, _, lacks⟩
      · exact ⟨_, stop, .inside .stop, number_eq_fault_iff.mp here⟩
      · rcases (interval_eq_fault_iff.mp lacks).2 with lacks | ⟨_, lacks⟩
        · rcases boundFault_cases lacks with impossible | impossible <;> cases impossible
        · rcases boundFault_cases lacks with impossible | impossible <;> cases impossible
  | map source function =>
      rw [rule, Trial.value_andThen] at stops
      rcases Outcome.bind_eq_fault stops with here | ⟨elements, _, later⟩
      · exact ⟨_, source, .inside .mapSource, elements_eq_fault_iff.mp here⟩
      rw [Trial.value_map, Outcome.map_eq_fault_iff] at later
      cases parts : mapperParts function with
      | error cause =>
          cases elements with
          | nil => cases later
          | cons element rest =>
              simp only [mapElements, parts, Trial.value_afterPause, Trial.value_stop,
                Outcome.fault.injEq] at later
              exact absurd later (mapperParts_ne_tooDeep parts)
      | ok found =>
          rcases found with ⟨parameter, body⟩
          rw [mapElements_eq_traverseFrom inner environment parts, Trial.value_traverseFrom,
            Outcome.map_eq_fault_iff] at later
          rcases Outcome.traverse_eq_fault_iff.mp later with ⟨_, element, _, _, _, stopsThere⟩
          exact ⟨_, body, .inside (.mapBody parts element), number_eq_fault_iff.mp stopsThere⟩
  | reduce source primer function =>
      rw [rule, Trial.value_andThen] at stops
      rcases Outcome.bind_eq_fault stops with here | ⟨elements, _, later⟩
      · exact ⟨_, source, .inside .reduceSource, elements_eq_fault_iff.mp here⟩
      rw [Trial.value_andThen] at later
      rcases Outcome.bind_eq_fault later with here | ⟨start, _, last⟩
      · exact ⟨_, primer, .inside .primer, number_eq_fault_iff.mp here⟩
      rw [Trial.value_map, Outcome.map_eq_fault_iff] at last
      cases parts : reducerParts function with
      | error cause =>
          cases elements with
          | nil => cases last
          | cons element rest =>
              simp only [reduceElements, parts, Trial.value_afterPause, Trial.value_stop,
                Outcome.fault.injEq] at last
              exact absurd last (reducerParts_ne_tooDeep parts)
      | ok found =>
          rcases found with ⟨first, second, body⟩
          rw [reduceElements_eq_fold inner environment parts] at last
          rcases Trial.exists_of_fold_eq_fault last with ⟨accumulator, element, stopsThere⟩
          exact ⟨_, body, .inside (.reduceBody parts accumulator element),
            number_eq_fault_iff.mp stopsThere⟩
  | _ => cases stops

end Rules

/-- Where the bound on the depth is met, that many evaluations are inside one another. -/
theorem nested_of_tooDeep {depth : Nat} {environment : Environment} {node : Node}
    (stops : (value depth environment node).value = .fault .tooDeep) :
    Nested depth environment node := by
  induction depth generalizing environment node with
  | zero => exact .none environment node
  | succ depth inductionHypothesis =>
      rw [value, Trial.value_afterPause] at stops
      rcases exists_calls_of_tooDeep stops with ⟨scope, part, calls, stopsThere⟩
      exact .call calls (inductionHypothesis stopsThere)

section Normal

variable {depth : Nat} {environment : Environment} (normal : environment.IsNormal) {node : Node}
include normal

theorem value_ne_tooDeep (enough : node.height + 2 ≤ depth) :
    (value depth environment node).value ≠ .fault .tooDeep := by
  intro stops
  have bounded := (nested_of_tooDeep stops).le_height normal
  omega

theorem evaluate_ne_tooDeep (enough : node.height + 2 ≤ depth) (expected : Kind) :
    (evaluate depth environment expected node).value ≠ .fault .tooDeep := by
  intro stops
  rw [evaluate, Trial.value_andThen] at stops
  rcases Outcome.bind_eq_fault stops with here | ⟨found, _, expects⟩
  · exact value_ne_tooDeep normal enough here
  · rw [Trial.value_ofOutcome, Value.expect] at expects
    split at expects <;> cases expects

theorem display_ne_tooDeep (enough : node.height + 3 ≤ depth) :
    (display depth environment node).value ≠ .fault .tooDeep := by
  induction depth generalizing node with
  | zero => omega
  | succ depth inductionHypothesis =>
      intro stops
      by_cases first : isEvaluatedFirst node = true
      · rw [display_of_isEvaluatedFirst first, Trial.value_map, Outcome.map_eq_fault_iff] at stops
        exact value_ne_tooDeep normal (by omega) stops
      · cases node with
        | number number => cases stops
        | name text =>
            rw [display] at stops
            cases found : environment.find? text with
            | none => rw [found] at stops; cases stops
            | some bound =>
                rcases normal text bound found with ⟨value, rfl⟩
                rw [Node.height] at enough
                obtain ⟨deeper, rfl⟩ : ∃ deeper, depth = deeper + 2 := ⟨depth - 2, by omega⟩
                simp only [found, display_toNode] at stops
                cases stops
        | sequence elements =>
            rw [display, Trial.value_map, Outcome.map_eq_fault_iff, Trial.value_traverse] at stops
            rcases Outcome.traverse_eq_fault_iff.mp stops with
              ⟨before, element, after, rfl, _, stopsThere⟩
            have lower := Node.height_lt_sequence
              (List.mem_append_right before (List.mem_cons_self (a := element) (l := after)))
            exact inductionHypothesis (by omega) stopsThere
        | _ => exact absurd rfl first

theorem evaluate_depth_irrelevant {more : Nat} (enough : node.height + 2 ≤ depth)
    (later : depth ≤ more) (expected : Kind) :
    evaluate more environment expected node = evaluate depth environment expected node := by
  rw [evaluate, evaluate,
    value_depth_irrelevant normal (Nat.le_trans enough later) enough]

/-- A statement that is given the room it needs does the same with more. -/
theorem alone_depth_irrelevant {more : Nat} (enough : node.height + 2 ≤ depth)
    (later : depth ≤ more) : alone more environment node = alone depth environment node := by
  cases node with
  | declare name expression =>
      rw [Node.height] at enough
      have same : value more environment expression = value depth environment expression :=
        value_depth_irrelevant normal (by omega) (by omega)
      simp only [alone, statement, same]
  | out expression =>
      rw [Node.height] at enough
      have same : display more environment expression = display depth environment expression :=
        display_depth_irrelevant normal (by omega) (by omega)
      simp only [alone, statement, same]
  | _ => rfl

theorem alone_ne_tooDeep (enough : node.height + 2 ≤ depth) :
    (alone depth environment node).complete.2 ≠ .fault .tooDeep := by
  cases node with
  | declare name expression =>
      rw [Node.height] at enough
      have settles := value_ne_tooDeep normal (show expression.height + 2 ≤ depth by omega)
      simp only [alone, statement, Activity.complete_follow]
      cases found : (value depth environment expression).value with
      | success value => cases name <;> rintro ⟨⟩
      | failure reason => rintro ⟨⟩
      | fault cause =>
          rintro ⟨⟩
          exact settles found
  | out expression =>
      rw [Node.height] at enough
      have settles := display_ne_tooDeep normal (show expression.height + 3 ≤ depth by omega)
      simp only [alone, statement, Activity.complete_follow]
      cases found : (display depth environment expression).value with
      | success value => rintro ⟨⟩
      | failure reason => rintro ⟨⟩
      | fault cause =>
          rintro ⟨⟩
          exact settles found
  | print content => cases content <;> rintro ⟨⟩
  | _ => rintro ⟨⟩

end Normal

theorem joinFrom_ne_tooDeep (index : Nat) (items : List Printed) :
    joinFrom index items ≠ .error .tooDeep := by
  induction items generalizing index with
  | nil => rintro ⟨⟩
  | cons item items inductionHypothesis =>
      cases item with
      | number number => rintro ⟨⟩
      | text content =>
          rw [joinFrom]
          intro stops
          cases joined : joinFrom (index + 1) items with
          | ok text => rw [joined] at stops; cases stops
          | error cause =>
              rw [joined] at stops
              cases stops
              exact inductionHypothesis (index + 1) joined

end Evaluation

namespace Activity

variable {α β : Type}

/-- What is seen of an activity and of what follows it depends on what follows it only at
the bindings and the value that it ends with. -/
theorem account_andThen_congr {next other : Environment -> α -> Activity β} {limit : Option Nat}
    {activity : Activity α}
    (same : forall environment value, activity.complete = (environment, .success value) ->
      forall count, (next environment value).account limit count =
        (other environment value).account limit count) (count : Nat) :
    (activity.andThen next).account limit count = (activity.andThen other).account limit count := by
  induction activity generalizing count with
  | finished environment outcome =>
      cases outcome with
      | success value => exact same environment value rfl count
      | failure reason => rfl
      | fault cause => rfl
  | suspended environment resume inductionHypothesis =>
      simp only [andThen, account]
      split
      · rfl
      · exact inductionHypothesis environment same (count + 1)

/-- What was seen to end has ended so. -/
theorem complete_of_account {limit : Option Nat} {count : Nat} {activity : Activity α}
    {outcome : Outcome Failure α}
    (ended : (activity.account limit count).ending = .finished outcome) :
    activity.complete.2 = outcome := by
  induction activity generalizing count with
  | finished environment final => cases ended; rfl
  | suspended environment resume inductionHypothesis =>
      rw [account] at ended
      split at ended
      · cases ended
      · exact inductionHypothesis environment ended

end Activity

namespace Evaluation

section Programs

variable {depth : Nat} {nodes : List Node}

theorem program_ne_tooDeep (enough : forall node, node ∈ nodes -> node.height + 2 ≤ depth)
    {environment : Environment} (normal : environment.IsNormal) (printed : List Printed) :
    (program depth printed nodes environment).complete.2 ≠ .fault .tooDeep := by
  induction nodes generalizing environment printed with
  | nil =>
      rw [program, Activity.complete]
      cases joined : joinFrom 0 printed with
      | ok text => rintro ⟨⟩
      | error cause =>
          rintro ⟨⟩
          exact joinFrom_ne_tooDeep 0 printed joined
  | cons node nodes inductionHypothesis =>
      have settles := alone_ne_tooDeep normal (enough node List.mem_cons_self)
      rcases complete_alone depth environment node with
        ⟨item, done⟩ | ⟨reason, failed⟩ | ⟨cause, stopped⟩
      · rw [complete_program_of_success done]
        exact inductionHypothesis (fun other member => enough other (List.mem_cons_of_mem _ member))
          (isNormal_declared depth normal node) _
      · rw [complete_program_of_failure failed]
        rintro ⟨⟩
      · rw [complete_program_of_fault stopped]
        rintro ⟨⟩
        exact settles (congrArg Prod.snd stopped)

/-- Each statement is run from bindings of normal forms, so the induction goes through all
of them. -/
theorem account_program_irrelevant {more : Nat}
    (enough : forall node, node ∈ nodes -> node.height + 2 ≤ depth) (later : depth ≤ more)
    {environment : Environment} (normal : environment.IsNormal) (limit : Option Nat)
    (printed : List Printed) (count : Nat) :
    (program more printed nodes environment).account limit count =
      (program depth printed nodes environment).account limit count := by
  induction nodes generalizing environment printed count with
  | nil => rfl
  | cons node nodes inductionHypothesis =>
      rw [program_cons, program_cons,
        alone_depth_irrelevant normal (enough node List.mem_cons_self) later]
      apply Activity.account_andThen_congr
      intro next item done count
      have isNext : next.IsNormal := by
        rcases complete_alone depth environment node with
          ⟨_, isDone⟩ | ⟨_, failed⟩ | ⟨_, stopped⟩
        · rw [isDone] at done
          cases done
          exact isNormal_declared depth normal node
        · rw [failed] at done; cases done
        · rw [stopped] at done; cases done
      exact inductionHypothesis (fun other member => enough other (List.mem_cons_of_mem _ member))
        isNext _ count

end Programs

/-- From bindings of normal forms evaluations are nested at most one deeper than the
expression is high.  An evaluator that is given two levels more than that height never
runs out of them, and with more room it is the same run; the text of a value, which a
failure may show, takes two levels.  The same goes for display with three levels, and for
programs, which are watched up to any suspension at which they might be cancelled. -/
theorem terminates_within_height {environment : Environment} (normal : environment.IsNormal) :
    (forall count node, Nested count environment node -> count ≤ node.height + 1) ∧
    (forall node depth, node.height + 2 ≤ depth -> forall expected,
      (evaluate depth environment expected node).value ≠ .fault .tooDeep ∧
      forall more, depth ≤ more ->
        evaluate more environment expected node = evaluate depth environment expected node) ∧
    (forall found : Value, (display 2 environment found.toNode).value = .success found.text) ∧
    (forall node depth, node.height + 3 ≤ depth ->
      (display depth environment node).value ≠ .fault .tooDeep ∧
      forall more, depth ≤ more -> display more environment node = display depth environment node) ∧
    forall nodes depth, (forall node, node ∈ nodes -> node.height + 2 ≤ depth) -> forall limit,
      (watched depth nodes environment limit).ending ≠ .finished (.fault .tooDeep) ∧
      forall more, depth ≤ more ->
        watched more nodes environment limit = watched depth nodes environment limit := by
  refine ⟨fun _ _ nested => nested.le_height normal, ?_, display_toNode 0 environment, ?_, ?_⟩
  · intro node depth enough expected
    exact ⟨evaluate_ne_tooDeep normal enough expected, fun more later =>
      evaluate_depth_irrelevant normal enough later expected⟩
  · intro node depth enough
    exact ⟨display_ne_tooDeep normal enough, fun more later =>
      display_depth_irrelevant normal (Nat.le_trans enough later) enough⟩
  · intro nodes depth enough limit
    refine ⟨?_, fun more later => account_program_irrelevant enough later normal limit [] 0⟩
    intro stops
    exact program_ne_tooDeep enough normal [] (Activity.complete_of_account stops)

/-- The sum of all elements of `xs`, each of them doubled. -/
def doubledSum : Node :=
  .reduce doubledElements (.number Floating.zero)
    (.reducer (.name ['a']) (.name ['b']) (.operation .plus [.name ['a'], .name ['b']]))

theorem terminates_within_height_doubledSum :
    listed.IsNormal ∧ doubledSum.height + 2 = 7 ∧
    (forall count, Nested count listed doubledSum -> count ≤ 6) ∧
    (evaluate 7 listed .number doubledSum).value = .success (.number (ofInteger 6)) ∧
    evaluate depthLimit listed .number doubledSum = evaluate 7 listed .number doubledSum ∧
    watched depthLimit [.out doubledSum] listed (some 5) =
      watched 8 [.out doubledSum] listed (some 5) := by
  obtain ⟨nesting, evaluation, _, _, programs⟩ := terminates_within_height isNormal_listed
  have high : doubledSum.height = 5 := by decide
  have enough : forall node, node ∈ [Node.out doubledSum] -> node.height + 2 ≤ 8 := by
    intro node member
    rw [List.mem_singleton.mp member, Node.height, high]
  refine ⟨isNormal_listed, by rw [high], ?_, by decide +kernel, ?_, ?_⟩
  · intro count nested
    have bounded := nesting count doubledSum nested
    rwa [high] at bounded
  · exact (evaluation doubledSum 7 (by rw [high]) .number).2 depthLimit (by decide)
  · exact (programs [.out doubledSum] 8 enough (some 5)).2 depthLimit (by decide)

/-- In bindings that are no normal forms there may be no end: a name that is bound to itself
has no value at any depth. -/
theorem tooDeep_of_cycle (name : Text) (depth : Nat) :
    (value depth (Environment.insert [] name (.name name)) (.name name)).value =
      .fault .tooDeep := by
  induction depth with
  | zero => rfl
  | succ depth inductionHypothesis =>
      rw [value, Trial.value_afterPause, rule, Environment.find?_insert_self]
      exact inductionHypothesis

end Evaluation

end SequenceCalculator
