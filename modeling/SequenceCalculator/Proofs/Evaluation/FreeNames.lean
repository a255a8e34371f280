import SequenceCalculator.Proofs.Evaluation.NormalForm

namespace SequenceCalculator

/-!
# Free names

A name occurs free in an expression where no function around it binds it.  Two
environments that agree on the free names of an expression cannot be told apart by it:
not by its value, not by its failures and not by its pauses.

Functions bind their parameters by writing into a copy of the bindings, next to
everything else that is bound.  What stood there under the same name is overwritten
before the body is evaluated, and everything else that differs is not looked up.  A
name that is bound to a sequence is evaluated once more, in whatever scope; a sequence
of numbers has no names in it.
-/

open Number

namespace Evaluation

/-- A name occurs in an expression outside of all functions that bind it. -/
inductive Free (name : Text) : Node -> Prop where
  | name : Free name (.name name)
  | operand {operator : Operator} {operands : List Node} {operand : Node}
      (member : operand ∈ operands) (free : Free name operand) :
      Free name (.operation operator operands)
  | element {elements : List Node} {element : Node} (member : element ∈ elements)
      (free : Free name element) : Free name (.sequence elements)
  | start {start stop : Node} (free : Free name start) : Free name (.range start stop)
  | stop {start stop : Node} (free : Free name stop) : Free name (.range start stop)
  | mapSource {source function : Node} (free : Free name source) :
      Free name (.map source function)
  | mapFunction {source function : Node} (free : Free name function) :
      Free name (.map source function)
  | reduceSource {source primer function : Node} (free : Free name source) :
      Free name (.reduce source primer function)
  | primer {source primer function : Node} (free : Free name primer) :
      Free name (.reduce source primer function)
  | reduceFunction {source primer function : Node} (free : Free name function) :
      Free name (.reduce source primer function)
  | mapperBody {parameter body : Node} (apart : boundName parameter ≠ .ok (some name))
      (free : Free name body) : Free name (.mapper parameter body)
  | reducerBody {first second body : Node} (apartFirst : boundName first ≠ .ok (some name))
      (apartSecond : boundName second ≠ .ok (some name)) (free : Free name body) :
      Free name (.reducer first second body)

theorem not_free_mapper (parameter : Text) (body : Node) :
    ¬ Free parameter (.mapper (.name parameter) body) := by
  rintro (_ | _)
  contradiction

theorem not_free_reducer {name first second : Text} (isParameter : name = first ∨ name = second)
    (body : Node) : ¬ Free name (.reducer (.name first) (.name second) body) := by
  rintro (_ | _)
  rcases isParameter with rfl | rfl
  · contradiction
  · contradiction

theorem not_free_of_isNormal {node : Node} (normal : node.IsNormal) (name : Text) :
    ¬ Free name node := by
  rcases normal with ⟨value, rfl⟩
  intro free
  cases value with
  | number number => cases free
  | sequence elements =>
      cases free with
      | element member free =>
          rcases List.mem_map.mp member with ⟨number, _, rfl⟩
          cases free

/-- Two environments bind the free names of an expression alike, or leave them
unbound alike. -/
def AgreeOn (node : Node) (first second : Environment) : Prop :=
  forall name, Free name node -> first.find? name = second.find? name

theorem agreeOn_of_isNormal {node : Node} (normal : node.IsNormal) (first second : Environment) :
    AgreeOn node first second :=
  fun name free => absurd free (not_free_of_isNormal normal name)

/-- A name that is not free may be bound to anything. -/
theorem agreeOn_insert {name : Text} {node : Node} (notFree : ¬ Free name node)
    (environment : Environment) (bound : Node) :
    AgreeOn node (environment.insert name bound) environment := by
  intro other free
  apply Environment.find?_insert_of_ne
  rintro rfl
  exact notFree free

/-- A position that is bound needs no agreement. -/
theorem find?_assign_eq {here there : Environment} {name : Text} (position : Option Text)
    (node : Node) (same : position ≠ some name -> here.find? name = there.find? name) :
    (assign here position node).find? name = (assign there position node).find? name := by
  cases position with
  | none => exact same (by rintro ⟨⟩)
  | some bound =>
      simp only [assign]
      by_cases isName : name = bound
      · subst isName
        rw [Environment.find?_insert_self, Environment.find?_insert_self]
      · rw [Environment.find?_insert_of_ne here node isName,
          Environment.find?_insert_of_ne there node isName]
        apply same
        rintro ⟨⟩
        exact isName rfl

section Agreement

variable {here there : Environment} {node function body part : Node}

/-- The names that are free in a body are bound by its function, or they are free in
the function. -/
theorem AgreeOn.mapperBody (agree : AgreeOn function here there) {parameter : Option Text}
    (parts : mapperParts function = .ok (parameter, body)) (element : Node) :
    AgreeOn body (assign here parameter element) (assign there parameter element) := by
  rcases mapperParts_eq_ok parts with ⟨position, rfl, bound⟩
  intro name free
  apply find?_assign_eq
  intro apart
  apply agree
  apply Free.mapperBody _ free
  rintro isName
  rw [bound] at isName
  cases isName
  exact apart rfl

theorem AgreeOn.reducerBody (agree : AgreeOn function here there) {first second : Option Text}
    (parts : reducerParts function = .ok (first, second, body)) (accumulator element : Node) :
    AgreeOn body (assign (assign here first accumulator) second element)
      (assign (assign there first accumulator) second element) := by
  rcases reducerParts_eq_ok parts with ⟨firstPosition, secondPosition, rfl, firstBound, secondBound⟩
  intro name free
  apply find?_assign_eq
  intro apartSecond
  apply find?_assign_eq
  intro apartFirst
  apply agree
  apply Free.reducerBody _ _ free
  · rintro isName
    rw [firstBound] at isName
    cases isName
    exact apartFirst rfl
  · rintro isName
    rw [secondBound] at isName
    cases isName
    exact apartSecond rfl

/-- Agreement on an expression is agreement on what is inside it. -/
theorem AgreeOn.inside (agree : AgreeOn node here there) {enter : Environment -> Environment}
    (inside : Inside node enter part) : AgreeOn part (enter here) (enter there) := by
  cases inside with
  | operand member => exact fun name free => agree name (.operand member free)
  | element member => exact fun name free => agree name (.element member free)
  | start => exact fun name free => agree name (.start free)
  | stop => exact fun name free => agree name (.stop free)
  | mapSource => exact fun name free => agree name (.mapSource free)
  | reduceSource => exact fun name free => agree name (.reduceSource free)
  | primer => exact fun name free => agree name (.primer free)
  | mapBody parts element =>
      have functionAgree : AgreeOn _ here there := fun name free => agree name (.mapFunction free)
      exact functionAgree.mapperBody parts (.number element)
  | reduceBody parts accumulator element =>
      have functionAgree : AgreeOn _ here there :=
        fun name free => agree name (.reduceFunction free)
      exact functionAgree.reducerBody parts (.number accumulator) (.number element)

end Agreement

/-- The runs are the same, with any bound on the depth.  The induction is on the bound;
what a name is bound to is a normal form, on which all environments agree. -/
theorem value_eq_of_agreeOn (depth : Nat) {first second : Environment}
    (firstNormal : first.IsNormal) (secondNormal : second.IsNormal) {node : Node}
    (agree : AgreeOn node first second) : value depth first node = value depth second node := by
  induction depth generalizing first second node with
  | zero => rfl
  | succ depth inductionHypothesis =>
      rw [value, value]
      congr 1
      funext _
      apply rule_congr
      · rintro text rfl
        refine ⟨agree text .name, fun bound found => ?_⟩
        exact inductionHypothesis firstNormal secondNormal
          (agreeOn_of_isNormal (firstNormal text bound found) first second)
      · intro enter part inside
        exact inductionHypothesis (inside.isNormal firstNormal) (inside.isNormal secondNormal)
          (agree.inside inside)

theorem display_eq_of_agreeOn (depth : Nat) {first second : Environment}
    (firstNormal : first.IsNormal) (secondNormal : second.IsNormal) {node : Node}
    (agree : AgreeOn node first second) :
    display depth first node = display depth second node := by
  induction depth generalizing node with
  | zero => rfl
  | succ depth inductionHypothesis =>
      have evaluated := value_eq_of_agreeOn depth firstNormal secondNormal agree
      cases node with
      | number value => rfl
      | name text =>
          simp only [display, ← agree text .name]
          cases found : first.find? text with
          | none => rfl
          | some bound =>
              exact inductionHypothesis (agreeOn_of_isNormal (firstNormal text bound found) _ _)
      | sequence elements =>
          simp only [display]
          congr 1
          apply Trial.traverse_congr
          intro element member
          exact inductionHypothesis (agree.inside (.element member))
      | _ => simp only [display, evaluated]

/-- A function sees nothing of the bindings but the names that are free in it. -/
theorem mapElements_eq_of_agreeOn (depth : Nat) {first second : Environment}
    (firstNormal : first.IsNormal) (secondNormal : second.IsNormal) {function : Node}
    (agree : AgreeOn function first second) (found source : List Single) :
    mapElements (value depth) function first found source =
      mapElements (value depth) function second found source := by
  apply mapElements_congr
  intro parameter body element parts
  have bound := Value.isNormal_toNode (.number element)
  exact value_eq_of_agreeOn depth (firstNormal.assign parameter bound)
    (secondNormal.assign parameter bound) (agree.mapperBody parts (.number element))

theorem reduceElements_eq_of_agreeOn (depth : Nat) {first second : Environment}
    (firstNormal : first.IsNormal) (secondNormal : second.IsNormal) {function : Node}
    (agree : AgreeOn function first second) (accumulator : Single) (source : List Single) :
    reduceElements (value depth) function first accumulator source =
      reduceElements (value depth) function second accumulator source := by
  apply reduceElements_congr
  intro one two body accumulator element parts
  have isAccumulator := Value.isNormal_toNode (.number accumulator)
  have isElement := Value.isNormal_toNode (.number element)
  exact value_eq_of_agreeOn depth ((firstNormal.assign one isAccumulator).assign two isElement)
    ((secondNormal.assign one isAccumulator).assign two isElement)
    (agree.reducerBody parts (.number accumulator) (.number element))

/-- Evaluation, for every kind that is expected, and display are decided by the free
names of an expression: where two environments agree on these, the runs are equal, so
they come to the same after the same pauses.  In particular, a variable outside of a
function with the name of a parameter of that function has no influence on its body,
whatever the elements are. -/
theorem decided_by_free_names (depth : Nat) {first second : Environment}
    (firstNormal : first.IsNormal) (secondNormal : second.IsNormal) {node : Node}
    (agree : AgreeOn node first second) :
    (forall expected, evaluate depth first expected node = evaluate depth second expected node) ∧
    display depth first node = display depth second node ∧
    (forall (parameter : Text) (body : Node) (outer : Value) (found source : List Single),
      mapElements (value depth) (.mapper (.name parameter) body)
          (first.insert parameter outer.toNode) found source =
        mapElements (value depth) (.mapper (.name parameter) body) first found source) ∧
    forall (one two name : Text) (body : Node) (outer : Value) (accumulator : Single)
      (source : List Single), name = one ∨ name = two ->
      reduceElements (value depth) (.reducer (.name one) (.name two) body)
          (first.insert name outer.toNode) accumulator source =
        reduceElements (value depth) (.reducer (.name one) (.name two) body) first accumulator
          source := by
  refine ⟨?_, display_eq_of_agreeOn depth firstNormal secondNormal agree, ?_, ?_⟩
  · intro expected
    rw [evaluate, evaluate, value_eq_of_agreeOn depth firstNormal secondNormal agree]
  · intro parameter body outer found source
    have shadowed := firstNormal.insert parameter outer.isNormal_toNode
    exact mapElements_eq_of_agreeOn depth shadowed firstNormal
      (agreeOn_insert (not_free_mapper parameter body) first outer.toNode) found source
  · intro one two name body outer accumulator source isParameter
    have shadowed := firstNormal.insert name outer.isNormal_toNode
    exact reduceElements_eq_of_agreeOn depth shadowed firstNormal
      (agreeOn_insert (not_free_reducer isParameter body) first outer.toNode) accumulator source

/-- Adds every element of `xs` to itself, under the name `x`. -/
def doubledElements : Node :=
  .map (.name ['x', 's'])
    (.mapper (.name ['x']) (.operation .plus [.name ['x'], .name ['x']]))

theorem agreeOn_doubledElements {first second : Environment}
    (same : first.find? ['x', 's'] = second.find? ['x', 's']) :
    AgreeOn doubledElements first second := by
  intro name free
  cases free with
  | mapSource free =>
      cases free
      exact same
  | mapFunction free =>
      cases free with
      | mapperBody apart free =>
          cases free with
          | @operand _ _ operand member free =>
              have isName : operand = .name ['x'] := by simpa using member
              subst isName
              cases free
              exact absurd rfl apart

/-- The list of one and two, under the name `xs`. -/
def listed : Environment :=
  Environment.insert [] ['x', 's'] (Value.sequence [Floating.one, ofInteger 2]).toNode

theorem isNormal_listed : listed.IsNormal :=
  Environment.isNormal_nil.insert _ (Value.isNormal_toNode _)

theorem decided_by_free_names_doubledElements :
    listed.IsNormal ∧ (listed.insert ['x'] (Value.sequence []).toNode).IsNormal ∧
    AgreeOn doubledElements listed (listed.insert ['x'] (Value.sequence []).toNode) ∧
    evaluate depthLimit listed .sequence doubledElements =
      evaluate depthLimit (listed.insert ['x'] (Value.sequence []).toNode) .sequence
        doubledElements ∧
    (evaluate depthLimit listed .sequence doubledElements).value =
      .success (.sequence [ofInteger 2, ofInteger 4]) := by
  have shadowed := isNormal_listed.insert ['x'] (Value.isNormal_toNode (.sequence []))
  have agree : AgreeOn doubledElements listed (listed.insert ['x'] (Value.sequence []).toNode) :=
    agreeOn_doubledElements rfl
  exact ⟨isNormal_listed, shadowed, agree,
    (decided_by_free_names depthLimit isNormal_listed shadowed agree).1 .sequence,
    by decide +kernel⟩

end Evaluation

end SequenceCalculator
