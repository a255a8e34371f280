import SequenceCalculator.Proofs.Evaluation.Demands

namespace SequenceCalculator

/-!
# What a map and a reduce come to

A map comes to the numbers that its body comes to at each element, in a scope made for
that element alone from the bindings around the map.  A reduce is the fold from the left
of its body, each time in such a scope.  Both end at the first element at which the body
does not come to a number, and they end as the body does there.

That one scope is really kept for all elements is out of the picture here, and so is
everything else that the body binds: it may be any expression, with maps and reduces of
its own that bind the same names again.  Nothing is assumed of the bindings around.
-/

open Number

namespace Evaluation

/-- The body of a map at one element, as a number that is expected. -/
def mapped (depth : Nat) (environment : Environment) (parameter : Text) (body : Node)
    (element : Single) : Outcome Failure Value :=
  (evaluate depth (environment.insert parameter (.number element)) .number body).value

/-- The body of a reduce at one element, as a number that is expected.  The second
parameter is bound after the first. -/
def reduced (depth : Nat) (environment : Environment) (first second : Text) (body : Node)
    (accumulator element : Single) : Outcome Failure Value :=
  (evaluate depth ((environment.insert first (.number accumulator)).insert second
    (.number element)) .number body).value

/-- What taking a step at each element comes to: the numbers in order, or what the step
comes to at the first element at which it gives no number. -/
inductive Mapped (step : Single -> Outcome Failure Value) (elements : List Single) :
    Outcome Failure Value -> Prop where
  | numbers {numbers : List Single}
      (each : elements.map step = numbers.map fun number => .success (.number number)) :
      Mapped step elements (.success (.sequence numbers))
  | failed {before after : List Single} {element : Single} {reason : Failure}
      (split : elements = before ++ element :: after)
      (gave : forall other, other ∈ before -> ∃ number, step other = .success (.number number))
      (fails : step element = .failure reason) : Mapped step elements (.failure reason)
  | stopped {before after : List Single} {element : Single} {cause : Fault}
      (split : elements = before ++ element :: after)
      (gave : forall other, other ∈ before -> ∃ number, step other = .success (.number number))
      (stops : step element = .fault cause) : Mapped step elements (.fault cause)

/-- What a fold of a step comes to: the last accumulator, or what the step comes to where
it first gives no number. -/
inductive Folded (step : Single -> Single -> Outcome Failure Value) :
    Single -> List Single -> Outcome Failure Value -> Prop where
  | done (accumulator : Single) : Folded step accumulator [] (.success (.number accumulator))
  | next {accumulator element number : Single} {elements : List Single}
      {outcome : Outcome Failure Value}
      (gives : step accumulator element = .success (.number number))
      (rest : Folded step number elements outcome) :
      Folded step accumulator (element :: elements) outcome
  | failed {accumulator element : Single} {elements : List Single} {reason : Failure}
      (fails : step accumulator element = .failure reason) :
      Folded step accumulator (element :: elements) (.failure reason)
  | stopped {accumulator element : Single} {elements : List Single} {cause : Fault}
      (stops : step accumulator element = .fault cause) :
      Folded step accumulator (element :: elements) (.fault cause)

section Outcomes

variable {outcome : Outcome Failure Single}

theorem map_number_eq_success_iff {number : Single} :
    outcome.map Value.number = .success (.number number) ↔ outcome = .success number := by
  cases outcome <;> simp

theorem map_number_eq_failure_iff {reason : Failure} :
    outcome.map Value.number = .failure reason ↔ outcome = .failure reason := by
  cases outcome <;> simp

theorem map_number_inj {other : Outcome Failure Single}
    (same : outcome.map Value.number = other.map Value.number) : outcome = other := by
  cases other with
  | success number => exact map_number_eq_success_iff.mp same
  | failure reason => exact map_number_eq_failure_iff.mp same
  | fault cause => exact Outcome.map_eq_fault_iff.mp same

end Outcomes

section Steps

theorem mapped_iff (step : Single -> Outcome Failure Single) (elements : List Single)
    (outcome : Outcome Failure Value) :
    (Outcome.traverse step elements).map Value.sequence = outcome ↔
      Mapped (fun element => (step element).map Value.number) elements outcome := by
  have each (numbers : List Single) : Outcome.traverse step elements = .success numbers ↔
      elements.map (fun element => (step element).map Value.number) =
        numbers.map fun number => .success (.number number) := by
    rw [Outcome.traverse_eq_success_iff, ← List.map_inj_right fun _ _ => map_number_inj,
      List.map_map, List.map_map]
    rfl
  have before (elements : List Single) :
      (forall other, other ∈ elements ->
          ∃ number, (step other).map Value.number = .success (.number number)) ↔
        forall other, other ∈ elements -> ∃ number, step other = .success number := by
    simp only [map_number_eq_success_iff]
  constructor
  · rintro rfl
    cases traversed : Outcome.traverse step elements with
    | success numbers => exact .numbers ((each numbers).mp traversed)
    | failure reason =>
        rcases Outcome.traverse_eq_failure_iff.mp traversed with
          ⟨earlier, element, after, split, gave, fails⟩
        exact .failed split ((before earlier).mpr gave) (map_number_eq_failure_iff.mpr fails)
    | fault cause =>
        rcases Outcome.traverse_eq_fault_iff.mp traversed with
          ⟨earlier, element, after, split, gave, stops⟩
        exact .stopped split ((before earlier).mpr gave) (Outcome.map_eq_fault_iff.mpr stops)
  · intro maps
    cases maps with
    | numbers gives => rw [(each _).mpr gives, Outcome.map_success]
    | failed split gave fails =>
        have first := Outcome.traverse_eq_failure_iff.mpr
          ⟨_, _, _, split, (before _).mp gave, map_number_eq_failure_iff.mp fails⟩
        rw [first, Outcome.map_failure]
    | stopped split gave stops =>
        have first := Outcome.traverse_eq_fault_iff.mpr
          ⟨_, _, _, split, (before _).mp gave, Outcome.map_eq_fault_iff.mp stops⟩
        rw [first, Outcome.map_fault]

/-- The induction is on the elements, for every accumulator. -/
theorem folded_iff {inner : Evaluator} {environment : Environment} {first second : Text}
    {body : Node} (start : Single) (elements : List Single) (outcome : Outcome Failure Value) :
    (folded inner environment first second body start elements).map Value.number = outcome ↔
      Folded (fun accumulator element =>
        (number inner ((environment.insert first (.number accumulator)).insert second
          (.number element)) body).value.map Value.number) start elements outcome := by
  induction elements generalizing start with
  | nil =>
      constructor
      · rintro rfl
        exact .done start
      · rintro ⟨⟩
        rfl
  | cons element elements inductionHypothesis =>
      rw [folded]
      cases found : (number inner ((environment.insert first (.number start)).insert second
        (.number element)) body).value with
      | success next =>
          rw [Outcome.bind_success, inductionHypothesis]
          constructor
          · exact .next (map_number_eq_success_iff.mpr found)
          · intro folds
            cases folds with
            | next gives rest =>
                rw [map_number_eq_success_iff, found] at gives
                cases gives
                exact rest
            | failed fails => rw [found] at fails; cases fails
            | stopped stops => rw [found] at stops; cases stops
      | failure reason =>
          rw [Outcome.bind_failure, Outcome.map_failure]
          constructor
          · rintro rfl
            exact .failed (map_number_eq_failure_iff.mpr found)
          · intro folds
            cases folds with
            | next gives rest => rw [found] at gives; cases gives
            | failed fails => rw [found] at fails; cases fails; rfl
            | stopped stops => rw [found] at stops; cases stops
      | fault cause =>
          rw [Outcome.bind_fault, Outcome.map_fault]
          constructor
          · rintro rfl
            exact .stopped (Outcome.map_eq_fault_iff.mpr found)
          · intro folds
            cases folds with
            | next gives rest => rw [found] at gives; cases gives
            | failed fails => rw [found] at fails; cases fails
            | stopped stops => rw [found] at stops; cases stops; rfl

end Steps

section Expressions

variable {depth : Nat} {environment : Environment} {source : Node} {elements : List Single}

theorem elements_of_evaluate
    (takes : (evaluate depth environment .sequence source).value = .success (.sequence elements)) :
    (Evaluation.elements (value depth) environment source).value = .success elements := by
  rw [evaluate_sequence, Trial.value_map] at takes
  rcases Outcome.map_eq_success takes with ⟨others, found, same⟩
  cases same
  exact found

theorem number_of_evaluate {node : Node} {found : Single}
    (gives : (evaluate depth environment .number node).value = .success (.number found)) :
    (number (value depth) environment node).value = .success found := by
  rwa [evaluate_number, Trial.value_map, map_number_eq_success_iff] at gives

theorem mapped_eq (depth : Nat) (environment : Environment) (parameter : Text) (body : Node) :
    mapped depth environment parameter body = fun element =>
      (number (value depth) (environment.insert parameter (.number element)) body).value.map
        Value.number := by
  funext element
  rw [mapped, evaluate_number, Trial.value_map]

theorem reduced_eq (depth : Nat) (environment : Environment) (first second : Text) (body : Node) :
    reduced depth environment first second body = fun accumulator element =>
      (number (value depth) ((environment.insert first (.number accumulator)).insert second
        (.number element)) body).value.map Value.number := by
  funext accumulator element
  rw [reduced, evaluate_number, Trial.value_map]

/-- Where both parameters have one name, the element is what that name is bound to. -/
theorem reduced_same (depth : Nat) (environment : Environment) (name : Text) (body : Node)
    (accumulator element : Single) :
    reduced depth environment name name body accumulator element =
      mapped depth environment name body element := by
  rw [reduced, mapped, Environment.insert_insert]

theorem map_eq_iff
    (takes : (evaluate depth environment .sequence source).value = .success (.sequence elements))
    (parameter : Text) (body : Node) (outcome : Outcome Failure Value) :
    (evaluate (depth + 1) environment .anything
        (.map source (.mapper (.name parameter) body))).value = outcome ↔
      Mapped (mapped depth environment parameter body) elements outcome := by
  rw [evaluate_anything, value, Trial.value_afterPause, rule, Trial.value_andThen,
    elements_of_evaluate takes, Outcome.bind_success, Trial.value_map, value_mapElements,
    mapped_eq, ← mapped_iff]
  cases Outcome.traverse _ elements <;> rfl

theorem reduce_eq_iff
    (takes : (evaluate depth environment .sequence source).value = .success (.sequence elements))
    {primer : Node} {start : Single}
    (starts : (evaluate depth environment .number primer).value = .success (.number start))
    (first second : Text) (body : Node) (outcome : Outcome Failure Value) :
    (evaluate (depth + 1) environment .anything
        (.reduce source primer (.reducer (.name first) (.name second) body))).value = outcome ↔
      Folded (reduced depth environment first second body) start elements outcome := by
  rw [evaluate_anything, value, Trial.value_afterPause, rule, Trial.value_andThen,
    elements_of_evaluate takes, Outcome.bind_success, Trial.value_andThen,
    number_of_evaluate starts, Outcome.bind_success, Trial.value_map, value_reduceElements,
    reduced_eq, folded_iff]

end Expressions

section Bindings

variable (depth : Nat) (environment : Environment)

/-- A statement leaves the bindings as they were until it is completed. -/
theorem environment_alone_after (node : Node) (resumed : Nat) :
    ((alone depth environment node).after resumed).environment = environment ∨
      ((alone depth environment node).after resumed).environment =
        declared depth environment node := by
  cases reached : (alone depth environment node).after resumed with
  | suspended left resume => exact .inl (alone_after_suspended reached)
  | finished left outcome =>
      have ended := Activity.complete_of_after reached
      rcases complete_alone depth environment node with
        ⟨item, done⟩ | ⟨reason, failed⟩ | ⟨cause, stopped⟩
      · rw [done] at ended; cases ended; exact .inr rfl
      · rw [failed] at ended; cases ended; exact .inl rfl
      · rw [stopped] at ended; cases ended; exact .inl rfl

theorem environment_out_after (expression : Node) (resumed : Nat) :
    ((alone depth environment (.out expression)).after resumed).environment = environment :=
  (environment_alone_after depth environment (.out expression) resumed).elim id id

theorem environment_declare_after (name : Text) (expression : Node) (resumed : Nat) :
    ((alone depth environment (.declare (.name name) expression)).after resumed).environment =
        environment ∨
      ∃ found, (value depth environment expression).value = .success found ∧
        ((alone depth environment (.declare (.name name) expression)).after resumed).environment =
          environment.insert name found.toNode := by
  rcases environment_alone_after depth environment (.declare (.name name) expression) resumed with
    same | bound
  · exact .inl same
  · rw [bound, declared]
    cases (value depth environment expression).value with
    | success found => exact .inr ⟨found, rfl, rfl⟩
    | failure reason => exact .inl rfl
    | fault cause => exact .inl rfl

end Bindings

/-- A map comes to what its body comes to at each element as a number, in the bindings
around the map with that element as the parameter.  A reduce comes to the fold of its body
from the primer on, where the element is bound behind the accumulator, so it wins when
both have one name.  Whatever is evaluated for a statement, the bindings around are the
same at every suspension and at the end, but for what a completed declaration binds. -/
theorem fresh_scope_for_each {depth : Nat} {environment : Environment} {source : Node}
    {elements : List Single}
    (takes : (evaluate depth environment .sequence source).value = .success (.sequence elements)) :
    (forall parameter body outcome,
      (evaluate (depth + 1) environment .anything
          (.map source (.mapper (.name parameter) body))).value = outcome ↔
        Mapped (mapped depth environment parameter body) elements outcome) ∧
    (forall primer start first second body outcome,
      (evaluate depth environment .number primer).value = .success (.number start) ->
      ((evaluate (depth + 1) environment .anything
          (.reduce source primer (.reducer (.name first) (.name second) body))).value = outcome ↔
        Folded (reduced depth environment first second body) start elements outcome)) ∧
    (forall name body accumulator element,
      reduced depth environment name name body accumulator element =
        mapped depth environment name body element) ∧
    forall expression resumed,
      ((alone depth environment (.out expression)).after resumed).environment = environment ∧
      forall name,
        ((alone depth environment (.declare (.name name) expression)).after
            resumed).environment = environment ∨
          ∃ found, (value depth environment expression).value = .success found ∧
            ((alone depth environment (.declare (.name name) expression)).after
              resumed).environment = environment.insert name found.toNode := by
  refine ⟨map_eq_iff takes, ?_, reduced_same depth environment, ?_⟩
  · intro primer start first second body outcome starts
    exact reduce_eq_iff takes starts first second body outcome
  · intro expression resumed
    exact ⟨environment_out_after depth environment expression resumed,
      fun name => environment_declare_after depth environment name expression resumed⟩

/-- For each `x`, the product of `x` with all doubled numbers from one to `x`: the inner
functions bind `x` again. -/
def rebinding : Node :=
  .reduce
    (.map (.range (.number Floating.one) (.name ['x']))
      (.mapper (.name ['x']) (.operation .plus [.name ['x'], .name ['x']])))
    (.name ['x'])
    (.reducer (.name ['y']) (.name ['x']) (.operation .times [.name ['x'], .name ['y']]))

/-- At one it is `1 * 2`, and at three it is `3 * 2 * 4 * 6`.  The binding of `x` around
plays no part in it. -/
theorem fresh_scope_for_each_rebinding :
    let environment : Environment := Environment.insert [] ['x'] (.number (ofInteger 9))
    let source : Node := .sequence [.number Floating.one, .number (ofInteger 3)]
    (evaluate 9 environment .sequence source).value =
        .success (.sequence [Floating.one, ofInteger 3]) ∧
    (evaluate 9 environment .number (.name ['x'])).value = .success (.number (ofInteger 9)) ∧
    Mapped (mapped 9 environment ['x'] rebinding) [Floating.one, ofInteger 3]
      (.success (.sequence [ofInteger 2, ofInteger 144])) ∧
    Folded (reduced 9 environment ['x'] ['x'] rebinding) (ofInteger 9)
      [Floating.one, ofInteger 3] (.success (.number (ofInteger 144))) := by
  intro environment source
  have takes : (evaluate 9 environment .sequence source).value =
      .success (.sequence [Floating.one, ofInteger 3]) := by decide +kernel
  have starts : (evaluate 9 environment .number (.name ['x'])).value =
      .success (.number (ofInteger 9)) := by decide +kernel
  have fresh := fresh_scope_for_each takes
  exact ⟨takes, starts, (fresh.1 ['x'] rebinding _).mp (by decide +kernel),
    (fresh.2.1 _ _ ['x'] ['x'] rebinding _ starts).mp (by decide +kernel)⟩

end Evaluation

end SequenceCalculator
