import SequenceCalculator.Proofs.Evaluation.Kinds
import SequenceCalculator.Proofs.Session.Blocking
import SequenceCalculator.Proofs.Session.Serialized

namespace SequenceCalculator

/-!
# Bindings are normal forms at every moment

A session starts without bindings, and only completed declarations add to them.
So every binding is a normal form whenever somebody looks: between the turns of
concurrent callers, while an evaluation is suspended, and after one that has
failed or was cancelled.
-/

open Number Evaluation

theorem Evaluation.isNormal_program_complete (depth : Nat) (nodes : List Node)
    {environment : Environment} (normal : environment.IsNormal) :
    (program depth [] nodes environment).complete.1.IsNormal := by
  rcases Activity.exists_after_complete (program depth [] nodes environment) with ⟨resumed, same⟩
  rw [same]
  exact isNormal_program_after depth [] nodes normal resumed

namespace Session

theorem environment_start (handler : Handler) (path : Text) (interactive : Bool)
    (limits : Limits) : (start handler path interactive limits).1.environment = [] := by
  unfold start
  dsimp only
  split <;> rfl

theorem interactive_start (handler : Handler) (path : Text) (interactive : Bool)
    (limits : Limits) : (start handler path interactive limits).1.interactive = interactive := by
  unfold start
  dsimp only
  split <;> rfl

theorem limits_start (handler : Handler) (path : Text) (interactive : Bool) (limits : Limits) :
    (start handler path interactive limits).1.limits = limits := by
  unfold start
  dsimp only
  split <;> rfl

theorem isNormal_run {session : Session} (normal : session.environment.IsNormal) (text : Text)
    (number : Int) : (session.run text number).1.environment.IsNormal := by
  rw [environment_run]
  split
  · next nodes _ => exact isNormal_program_complete _ nodes normal
  · exact normal

/-- The session after texts were run one after the other, each from its line on. -/
def afterTexts (session : Session) (texts : List (Text × Int)) : Session :=
  texts.foldl (fun session (text, number) => (session.run text number).1) session

theorem isNormal_afterTexts {session : Session} (normal : session.environment.IsNormal)
    (texts : List (Text × Int)) : (session.afterTexts texts).environment.IsNormal := by
  induction texts generalizing session with
  | nil => exact normal
  | cons first rest inductionHypothesis =>
      exact inductionHypothesis (isNormal_run normal first.1 first.2)

end Session

namespace Chronicle

theorem Orderly.isNormal {chronicle : Chronicle} (orderly : chronicle.Orderly) :
    chronicle.world.session.environment.IsNormal := by
  rcases orderly.bindings with ⟨prefixes, _, environment, _⟩
  rw [environment]
  exact isNormal_foldl_declared _ Environment.isNormal_nil _

end Chronicle

namespace Evaluation

/-- Evaluation comes to normal forms of the expected kind, which evaluate to
themselves everywhere.  A value of another kind is reported with its text, also
where an operand or a source is evaluated.  Hence programs and sessions that start
without bindings have bound normal forms only, whenever and however they are
stopped. -/
theorem normal_forms_throughout :
    (forall (depth : Nat) (environment : Environment) (expected : Kind) (node : Node)
        (found : Value), (evaluate depth environment expected node).value = .success found ->
      ((∃ number, found.toNode = .number number) ∨
        ∃ elements : List Single, found.toNode = .sequence (elements.map .number)) ∧
      (expected = .anything ∨ found.toNode.kind? = some expected) ∧
      expected ≠ .range ∧ expected ≠ .unevaluated ∧
      forall (more : Nat) (other : Environment), depth ≤ more ->
        (evaluate more other .anything found.toNode).value = .success found) ∧
    (forall (depth : Nat) (environment : Environment) (expected : Kind) (node : Node)
        (found : Value), (value depth environment node).value = .success found ->
      expected ≠ .anything -> found.toNode.kind? ≠ some expected -> ∃ text reason,
        (display depth environment found.toNode).value = .success text ∧
        (evaluate depth environment expected node).value = .failure reason ∧
        reason.message = "expression ".toList ++ text ++ " should be a ".toList ++
          expected.name ++ ", yet it is a ".toList ++ found.kind.name) ∧
    (forall (depth : Nat) (environment : Environment) (node : Node),
      evaluate depth environment .number node =
        (number (value depth) environment node).map Value.number ∧
      evaluate depth environment .sequence node =
        (elements (value depth) environment node).map Value.sequence) ∧
    (forall (depth : Nat) (nodes : List Node),
      (forall resumed, ((program depth [] nodes []).after resumed).environment.IsNormal) ∧
      forall limit, ((program depth [] nodes []).account limit 0).environment.IsNormal) ∧
    (forall (handler : Handler) (path : Text) (interactive : Bool) (limits : Limits),
      (forall moves : List Move,
        (moves.foldl World.move (World.new (Session.start handler path interactive limits).1)
          ).session.environment.IsNormal) ∧
      forall texts : List (Text × Int),
        ((Session.start handler path interactive limits).1.afterTexts
          texts).environment.IsNormal) := by
  refine ⟨?_, ?_, ?_, ?_, ?_⟩
  · intro depth environment expected node found evaluates
    rcases evaluate_eq_success evaluates with ⟨isValue, fits⟩
    refine ⟨(Node.isNormal_iff _).mp found.isNormal_toNode, ?_, ?_, ?_, ?_⟩
    · rw [found.kind?_toNode, Option.some_inj]
      exact fits
    · rintro rfl
      cases found <;> rcases fits with impossible | impossible <;> cases impossible
    · rintro rfl
      cases found <;> rcases fits with impossible | impossible <;> cases impossible
    · intro more other enough
      rw [evaluate_anything]
      exact value_found isValue enough other
  · intro depth environment expected node found isValue wanted different
    rw [found.kind?_toNode, ne_eq, Option.some_inj] at different
    refine ⟨found.text, .wrongKind found expected, ?_, ?_, rfl⟩
    · rw [display_found_eq_succeed isValue environment, Trial.value_succeed]
    · rw [evaluate, Trial.value_andThen, isValue]
      exact Value.expect_of_wrongKind wanted different
  · intro depth environment node
    exact ⟨evaluate_number depth environment node, evaluate_sequence depth environment node⟩
  · intro depth nodes
    have normal := isNormal_program_after depth [] nodes Environment.isNormal_nil
    refine ⟨normal, ?_⟩
    intro limit
    rcases Activity.exists_after_account limit 0 (program depth [] nodes []) with ⟨resumed, same⟩
    rw [same]
    exact normal resumed
  · intro handler path interactive limits
    constructor
    · intro moves
      have orderly := Chronicle.orderly_after handler path interactive limits moves
      have normal := orderly.isNormal
      rw [Chronicle.world_after] at normal
      exact normal
    · intro texts
      apply Session.isNormal_afterTexts
      rw [Session.environment_start]
      exact Environment.isNormal_nil

/-- A name bound to a listed difference, which is no normal form. -/
def listedDifference : Environment :=
  [(['x'], .sequence [.operation .minus [.number Floating.one, .number Floating.one]])]

theorem normal_forms_throughout_listedDifference :
    (evaluate 4 listedDifference .sequence (.name ['x'])).value =
      .success (.sequence [Floating.zero]) ∧
    (evaluate 9 [] .anything (Value.sequence [Floating.zero]).toNode).value =
      .success (.sequence [Floating.zero]) ∧
    (Value.sequence [Floating.zero]).toNode.kind? ≠ some .number ∧
    ∃ text reason,
      (display 4 listedDifference (Value.sequence [Floating.zero]).toNode).value = .success text ∧
      (evaluate 4 listedDifference .number (.name ['x'])).value = .failure reason ∧
      reason.message = "expression ".toList ++ text ++ " should be a ".toList ++
        Kind.number.name ++ ", yet it is a ".toList ++ Kind.sequence.name := by
  have evaluates : (evaluate 4 listedDifference .sequence (.name ['x'])).value =
      .success (.sequence [Floating.zero]) := by decide +kernel
  have isValue := (evaluate_eq_success evaluates).1
  refine ⟨evaluates, ?_, by decide, ?_⟩
  · exact (normal_forms_throughout.1 _ _ _ _ _ evaluates).2.2.2.2 9 [] (by decide)
  · exact normal_forms_throughout.2.1 _ _ _ _ _ isValue (by decide) (by decide)

end Evaluation

end SequenceCalculator
