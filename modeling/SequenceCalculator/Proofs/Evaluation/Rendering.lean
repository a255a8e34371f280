import SequenceCalculator.Grammar.Program
import SequenceCalculator.Proofs.Evaluation.NormalForm

namespace SequenceCalculator

/-!
# Display against evaluation

Displaying an expression ought to be evaluating it and writing the value down.
Display takes its own way for numbers, names and listed sequences, and on the
last of these the two ways part: evaluation wants every listed element to be a
number, while display writes an element that is a sequence inside its braces and
goes on.

`MeetsSequence` says that evaluation comes upon such an element.  Away from it
display and evaluation agree in every outcome.  Where it holds, evaluation fails
at that element, and display agrees only if a later element happens to fail in
the very same way.
-/

open Number

namespace Evaluation

/-- What an expression evaluates to when it is given the depth it needs. -/
def result (environment : Environment) (node : Node) : Outcome Failure Value :=
  (settled environment node).value

theorem value_eq_result {depth : Nat} {environment : Environment}
    (normal : environment.IsNormal) {node : Node} (enough : node.height + 2 ≤ depth) :
    (value depth environment node).value = result environment node := by
  rw [value_eq_settled normal enough, result]

theorem result_eq_rule {environment : Environment} (normal : environment.IsNormal) (node : Node) :
    result environment node = (rule settled environment node).value := by
  rw [result, settled_eq_rule normal, Trial.value_afterPause]

theorem result_toNode (environment : Environment) (bound : Value) :
    result environment bound.toNode = .success bound := by
  rw [result, settled, value_toNode, value_normalRun]

theorem result_name {environment : Environment} (normal : environment.IsNormal) (text : Text) :
    result environment (.name text) =
      match environment.find? text with
      | none => .failure (.unknownVariable text)
      | some bound => result environment bound := by
  rw [result_eq_rule normal, rule]
  cases found : environment.find? text with
  | none => rfl
  | some bound =>
      rcases normal text bound found with ⟨value, rfl⟩
      cases value <;> rfl

/-- Every listed element has to be a number. -/
theorem result_sequence {environment : Environment} (normal : environment.IsNormal)
    (elements : List Node) :
    result environment (.sequence elements) =
      (Outcome.traverse
        (fun element => (result environment element).bind Value.expectNumber)
        elements).map Value.sequence := by
  rw [result_eq_rule normal, rule, Trial.value_map, numbers, Trial.value_traverse]
  simp only [number, Trial.value_andThen, Trial.value_ofOutcome, result]

/-- The evaluation of a listed sequence comes upon an element that is itself a
sequence: one of its own elements, behind numbers only, or one of a sequence that
is listed there in turn. -/
inductive MeetsSequence (environment : Environment) : Node -> List Single -> Prop where
  /-- The element is met in the sequence itself. -/
  | element {before after : List Node} {node : Node} {elements : List Single}
      (numbers : forall other, other ∈ before ->
        ∃ number, result environment other = .success (.number number))
      (met : result environment node = .success (.sequence elements)) :
      MeetsSequence environment (.sequence (before ++ node :: after)) elements
  /-- The element is met in a sequence that is listed in the sequence. -/
  | inside {before after : List Node} {node : Node} {elements : List Single}
      (numbers : forall other, other ∈ before ->
        ∃ number, result environment other = .success (.number number))
      (met : MeetsSequence environment node elements) :
      MeetsSequence environment (.sequence (before ++ node :: after)) elements

/-- Evaluation stops at the sequence it comes upon. -/
theorem MeetsSequence.result_eq {environment : Environment} (normal : environment.IsNormal)
    {node : Node} {elements : List Single} (meets : MeetsSequence environment node elements) :
    result environment node = .failure (.wrongKind (.sequence elements) .number) := by
  have expected : forall {before : List Node},
      (forall other, other ∈ before ->
        ∃ number, result environment other = .success (.number number)) ->
      forall other, other ∈ before ->
        ∃ number, (result environment other).bind Value.expectNumber = .success number := by
    intro before numbers other member
    rcases numbers other member with ⟨number, found⟩
    exact ⟨number, by rw [found]; rfl⟩
  induction meets with
  | element numbers met =>
      rw [result_sequence normal, Outcome.traverse_eq_failure_iff.mpr
        ⟨_, _, _, rfl, expected numbers, by rw [met]; rfl⟩]
      rfl
  | inside numbers met inductionHypothesis =>
      rw [result_sequence normal, Outcome.traverse_eq_failure_iff.mpr
        ⟨_, _, _, rfl, expected numbers, by rw [inductionHypothesis]; rfl⟩]
      rfl

/-- A normal form is displayed as it is written, without a pause. -/
theorem display_toNode_eq_succeed (depth : Nat) (environment : Environment) (bound : Value) :
    display (depth + 2) environment bound.toNode = .succeed bound.text := by
  cases bound with
  | number number => rfl
  | sequence elements =>
      have each : List.Forall₂
          (fun node written => display (depth + 1) environment node = .succeed written)
          (elements.map .number) (elements.map Floating.numeral) := by
        rw [List.forall₂_map_left_iff, List.forall₂_map_right_iff, List.forall₂_same]
        exact fun _ _ => rfl
      rw [Value.toNode, display, Trial.traverse, Trial.traverseFrom_succeed each]
      rfl

theorem display_toNode (depth : Nat) (environment : Environment) (bound : Value) :
    (display (depth + 2) environment bound.toNode).value = .success bound.text := by
  rw [display_toNode_eq_succeed, Trial.value_succeed]

/-- Displaying the elements one by one writes down the numbers they evaluate to,
as long as no sequence is met among them.  The induction is on the elements still
to come; those before are known to be numbers. -/
theorem traverse_display {environment : Environment} {displayed : Node -> Outcome Failure Text}
    (before : List Node) {after : List Node}
    (numbers : forall other, other ∈ before ->
      ∃ number, result environment other = .success (.number number))
    (agree : forall node, node ∈ after -> (¬ ∃ elements, MeetsSequence environment node elements) ->
      displayed node = (result environment node).map Value.text)
    (meetsNone : ¬ ∃ elements,
      MeetsSequence environment (.sequence (before ++ after)) elements) :
    Outcome.traverse displayed after =
      (Outcome.traverse (fun element => (result environment element).bind Value.expectNumber)
        after).map (List.map Floating.numeral) := by
  induction after generalizing before with
  | nil => rfl
  | cons node rest inductionHypothesis =>
      have head : displayed node = (result environment node).map Value.text := by
        refine agree node List.mem_cons_self fun meets => ?_
        rcases meets with ⟨elements, meets⟩
        exact meetsNone ⟨elements, .inside numbers meets⟩
      simp only [Outcome.traverse, head]
      cases found : result environment node with
      | failure reason => rfl
      | fault cause => rfl
      | success value =>
          cases value with
          | sequence elements => exact absurd ⟨elements, .element numbers found⟩ meetsNone
          | number number =>
              have tail := inductionHypothesis (before ++ [node])
                (by
                  intro other member
                  rcases List.mem_append.mp member with earlier | last
                  · exact numbers other earlier
                  · rw [List.mem_singleton.mp last]
                    exact ⟨number, found⟩)
                (fun other member => agree other (List.mem_cons_of_mem node member))
                (by simpa only [List.append_assoc, List.singleton_append] using meetsNone)
              simp only [Outcome.map_success, Value.text, Outcome.bind_success, tail,
                Value.expectNumber]
              cases Outcome.traverse
                (fun element => (result environment element).bind Value.expectNumber) rest <;> rfl

/-- Where no sequence is met among listed elements, display writes down what the
expression evaluates to, and fails as evaluation fails. -/
theorem display_of_not_meetsSequence {depth : Nat} {environment : Environment}
    (normal : environment.IsNormal) {node : Node} (enough : node.height + 3 ≤ depth)
    (meetsNone : ¬ ∃ elements, MeetsSequence environment node elements) :
    (display depth environment node).value = (result environment node).map Value.text := by
  induction depth generalizing node with
  | zero => omega
  | succ depth inductionHypothesis =>
      -- Everything but numbers, names and listed sequences is evaluated first.
      have evaluated : (value depth environment node).value = result environment node :=
        value_eq_result normal (by omega)
      cases node with
      | number number => rw [← Value.toNode, result_toNode]; rfl
      | name text =>
          rw [display, result_name normal]
          cases found : environment.find? text with
          | none => rfl
          | some bound =>
              rcases normal text bound found with ⟨value, rfl⟩
              obtain ⟨deeper, rfl⟩ : ∃ deeper, depth = deeper + 2 :=
                ⟨depth - 2, by simp only [Node.height] at enough; omega⟩
              simp only [display_toNode, result_toNode, Outcome.map_success]
      | sequence elements =>
          have each : Outcome.traverse (fun node => (display depth environment node).value)
              elements = _ := traverse_display [] (fun _ member => by cases member)
            (fun element member none =>
              inductionHypothesis (by have := Node.height_lt_sequence member; omega) none)
            meetsNone
          rw [display, Trial.value_map, Trial.value_traverse, each, result_sequence normal]
          cases Outcome.traverse
            (fun element => (result environment element).bind Value.expectNumber) elements <;> rfl
      | _ => simp only [display, Trial.value_map, evaluated]

/-- A program puts out a text when nobody interrupts it. -/
def PutsOut (depth : Nat) (environment : Environment) (statements : List Node)
    (text : Text) : Prop :=
  (program depth [] statements environment).complete.2 = .success text

theorem putsOut_out (depth : Nat) (environment : Environment) (node : Node) (text : Text) :
    PutsOut depth environment [.out node] text ↔
      (display depth environment node).value = .success text := by
  simp only [PutsOut, program, statement, Activity.complete_follow]
  cases (display depth environment node).value with
  | success shown => simp [Activity.complete, joinFrom, Outcome.ofExcept, Except.map]
  | failure reason => simp
  | fault cause => simp

/-- Binding an expression to a name and displaying the name writes its value
down, whatever the name was bound to before. -/
theorem putsOut_declare_out {depth : Nat} (enough : 3 ≤ depth) (environment : Environment)
    (name : Text) (node : Node) (text : Text) :
    PutsOut depth environment [.declare (.name name) node, .out (.name name)] text ↔
      (value depth environment node).value.map Value.text = .success text := by
  obtain ⟨deeper, rfl⟩ : ∃ deeper, depth = deeper + 3 := ⟨depth - 3, by omega⟩
  simp only [PutsOut, program, statement, Activity.complete_follow]
  cases (value (deeper + 3) environment node).value with
  | success bound =>
      have shown : (display (deeper + 3) (environment.insert name bound.toNode)
          (.name name)).value = .success bound.text := by
        rw [display]
        simp only [Environment.find?_insert_self, display_toNode]
      simp only [boundName, assign, Activity.complete_follow, shown]
      simp [Activity.complete, joinFrom, Outcome.ofExcept, Except.map]
  | failure reason => simp
  | fault cause => simp

/-- Display writes down the value of an expression, and fails where and as its
evaluation fails. -/
def DisplaysValue (depth : Nat) (environment : Environment) (node : Node) : Prop :=
  (display depth environment node).value =
    (value depth environment node).value.map Value.text

/-- Putting out an expression gives a text exactly when binding it to a name and
putting out the name does. -/
def DisplaysAsBound (depth : Nat) (environment : Environment) (node : Node) : Prop :=
  forall name text, PutsOut depth environment [.out node] text ↔
    PutsOut depth environment [.declare (.name name) node, .out (.name name)] text

/-- Display never writes a value down wrongly.  It agrees with evaluation in
every outcome exactly when each sequence met among listed elements makes display
fail as evaluation does, and an expression can be bound to a name first exactly
when display fails at all there. -/
theorem displaysValue_iff {depth : Nat} {environment : Environment}
    (normal : environment.IsNormal) {node : Node} (enough : node.height + 3 ≤ depth) :
    (forall found, (value depth environment node).value = .success found ->
      (display depth environment node).value = .success found.text) ∧
    (DisplaysValue depth environment node ↔
      forall elements, MeetsSequence environment node elements ->
        (display depth environment node).value =
          .failure (.wrongKind (.sequence elements) .number)) ∧
    (DisplaysAsBound depth environment node ↔
      forall elements, MeetsSequence environment node elements ->
        forall text, (display depth environment node).value ≠ .success text) := by
  have settles : (value depth environment node).value = result environment node :=
    value_eq_result normal (by omega)
  have bound : forall name text,
      PutsOut depth environment [.declare (.name name) node, .out (.name name)] text ↔
        (result environment node).map Value.text = .success text := by
    intro name text
    rw [putsOut_declare_out (by omega), settles]
  have agree := display_of_not_meetsSequence normal enough
  refine ⟨?_, ?_, ?_⟩
  · intro found evaluates
    rw [settles] at evaluates
    rw [agree, evaluates]
    · rfl
    · rintro ⟨elements, meets⟩
      rw [meets.result_eq normal] at evaluates
      cases evaluates
  · rw [DisplaysValue, settles]
    constructor
    · intro same elements meets
      rw [same, meets.result_eq normal]
      rfl
    · intro fails
      by_cases met : ∃ elements, MeetsSequence environment node elements
      · rcases met with ⟨elements, meets⟩
        rw [fails elements meets, meets.result_eq normal]
        rfl
      · exact agree met
  · constructor
    · intro same elements meets text displayed
      have putOut := (same [] text).mp ((putsOut_out _ _ _ _).mpr displayed)
      rw [bound, meets.result_eq normal] at putOut
      cases putOut
    · intro fails name text
      rw [putsOut_out, bound]
      by_cases met : ∃ elements, MeetsSequence environment node elements
      · rcases met with ⟨elements, meets⟩
        rw [meets.result_eq normal]
        constructor
        · intro displayed
          exact absurd displayed (fails elements meets text)
        · intro impossible
          cases impossible
      · rw [agree met]

/-- A listed sequence inside a listed sequence. -/
def nestedSequence : Node :=
  .sequence [.sequence [.number Floating.one]]

/-- Whether a reading has found a statement that puts out that sequence. -/
def isNestedSequence : Outcome Grammar.SyntaxError Node -> Bool
  | .success (.out (.sequence [.sequence [.number value]])) => decide (value = Floating.one)
  | _ => false

theorem displaysValue_iff_nestedSequence :
    Environment.IsNormal [] ∧ nestedSequence.height + 3 ≤ depthLimit ∧
      (DisplaysValue depthLimit [] nestedSequence ↔
        forall elements, MeetsSequence [] nestedSequence elements ->
          (display depthLimit [] nestedSequence).value =
            .failure (.wrongKind (.sequence elements) .number)) :=
  ⟨Environment.isNormal_nil, by decide,
    (displaysValue_iff Environment.isNormal_nil (by decide)).2.1⟩

/-- A text that can be typed shows the difference: its expression has no value,
and yet it is displayed. -/
theorem nestedSequence_displayed_without_value :
    Grammar.parseStatement Grammar.nestingLimit "out \x7b\x7b1\x7d\x7d".toList =
      .success (.out nestedSequence) ∧
    (value depthLimit [] nestedSequence).value =
      .failure (.wrongKind (.sequence [Floating.one]) .number) ∧
    (display depthLimit [] nestedSequence).value = .success "\x7b\x7b1\x7d\x7d".toList ∧
    ¬ DisplaysValue depthLimit [] nestedSequence ∧
    ¬ DisplaysAsBound depthLimit [] nestedSequence := by
  have evaluates : (value depthLimit [] nestedSequence).value =
      .failure (.wrongKind (.sequence [Floating.one]) .number) := by decide +kernel
  have displayed : (display depthLimit [] nestedSequence).value =
      .success "\x7b\x7b1\x7d\x7d".toList := by decide +kernel
  refine ⟨?_, evaluates, displayed, ?_, ?_⟩
  · have shape : isNestedSequence (Grammar.parseStatement Grammar.nestingLimit
        "out \x7b\x7b1\x7d\x7d".toList) = true := by decide +kernel
    unfold isNestedSequence at shape
    split at shape
    · next value parsed =>
        rw [parsed, of_decide_eq_true shape]
        rfl
    · cases shape
  · rw [DisplaysValue, evaluates, displayed]
    intro same
    cases same
  · intro same
    have putOut := (same [] _).mp ((putsOut_out _ _ _ _).mpr displayed)
    rw [putsOut_declare_out (by decide), evaluates] at putOut
    cases putOut

end Evaluation

end SequenceCalculator
