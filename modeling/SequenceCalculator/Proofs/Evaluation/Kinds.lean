import SequenceCalculator.Proofs.Evaluation.Rendering
import SequenceCalculator.Proofs.Evaluation.Statements

namespace SequenceCalculator

/-!
# Values are normal forms

Nothing is assumed of environments here: a name may be bound to any tree, to
itself, or to something that is no expression at all.  Whatever evaluation comes
to is a number or a sequence of numbers.  It evaluates to itself in every other
environment, at any depth that was enough to find it, so a value can be bound and
looked up again.

A value of the wrong kind is reported with its own text.  That the text can be
written down at all is a fact about display, which might have to evaluate; on
values it never does.
-/

open Number

namespace Node

theorem isNormal_iff (node : Node) :
    node.IsNormal ↔ (∃ number, node = .number number) ∨
      ∃ elements : List Single, node = .sequence (elements.map .number) := by
  constructor
  · rintro ⟨value, rfl⟩
    cases value with
    | number number => exact .inl ⟨number, rfl⟩
    | sequence elements => exact .inr ⟨elements, rfl⟩
  · rintro (⟨number, rfl⟩ | ⟨elements, rfl⟩)
    · exact ⟨.number number, rfl⟩
    · exact ⟨.sequence elements, rfl⟩

end Node

namespace Value

theorem kind?_toNode (found : Value) : found.toNode.kind? = some found.kind := by
  cases found <;> rfl

theorem expect_eq_success {expected : Kind} {value found : Value}
    (expects : value.expect expected = .success found) :
    found = value ∧ (expected = .anything ∨ value.kind = expected) := by
  unfold expect at expects
  split at expects
  · next fits =>
    cases expects
    rw [Bool.or_eq_true, decide_eq_true_eq, decide_eq_true_eq] at fits
    exact ⟨rfl, fits⟩
  · cases expects

theorem expect_of_wrongKind {expected : Kind} {value : Value} (wanted : expected ≠ .anything)
    (different : value.kind ≠ expected) :
    value.expect expected = .failure (.wrongKind value expected) := by
  unfold expect
  rw [if_neg]
  rw [Bool.or_eq_true, decide_eq_true_eq, decide_eq_true_eq]
  rintro (isAnything | same)
  · exact wanted isAnything
  · exact different same

end Value

/-- The outcome with the message of a failure in place of the failure. -/
def Outcome.told {α : Type} : Outcome Failure α -> Outcome Text α
  | .success found => .success found
  | .failure reason => .failure reason.message
  | .fault cause => .fault cause

theorem Outcome.told_eq_success {α : Type} {outcome : Outcome Failure α} {found : α}
    (succeeds : outcome.told = .success found) : outcome = .success found := by
  cases outcome with
  | success other => cases succeeds; rfl
  | failure reason => cases succeeds
  | fault cause => cases succeeds

namespace Trial

/-- The run with the message of a failure in place of the failure. -/
def told {α : Type} (trial : Trial Failure α) : Trial Text α :=
  Run.bind trial fun outcome => .done outcome.told

theorem value_told {α : Type} (trial : Trial Failure α) :
    trial.told.value = trial.value.told :=
  Run.value_bind trial _

theorem told_andThen {α β : Type} (trial : Trial Failure α) (next : α -> Trial Failure β) :
    (trial.andThen next).told = trial.told.andThen fun found => (next found).told := by
  induction trial with
  | done outcome => cases outcome <;> rfl
  | paused resume inductionHypothesis =>
      simp only [told, andThen, Run.bind] at inductionHypothesis ⊢
      congr 1
      funext moment
      exact inductionHypothesis moment

variable {ε α β γ : Type}

theorem andThen_assoc (trial : Trial ε α) (next : α -> Trial ε β) (last : β -> Trial ε γ) :
    (trial.andThen next).andThen last = trial.andThen fun value => (next value).andThen last := by
  induction trial with
  | done outcome => cases outcome <;> rfl
  | paused resume inductionHypothesis =>
      simp only [andThen, Run.bind] at inductionHypothesis ⊢
      congr 1
      funext moment
      exact inductionHypothesis moment

end Trial

namespace Evaluation

/-- An expression that has to be a number is one that is expected to be of that
kind, with the same pauses. -/
theorem evaluate_number (depth : Nat) (environment : Environment) (node : Node) :
    evaluate depth environment .number node =
      (number (value depth) environment node).map Value.number := by
  rw [evaluate, number, Trial.map, Trial.andThen_assoc]
  congr 1
  funext found
  cases found <;> rfl

theorem evaluate_sequence (depth : Nat) (environment : Environment) (node : Node) :
    evaluate depth environment .sequence node =
      (elements (value depth) environment node).map Value.sequence := by
  rw [evaluate, elements, Trial.map, Trial.andThen_assoc]
  congr 1
  funext found
  cases found <;> rfl

theorem evaluate_eq_success {depth : Nat} {environment : Environment} {expected : Kind}
    {node : Node} {found : Value}
    (evaluates : (evaluate depth environment expected node).value = .success found) :
    (value depth environment node).value = .success found ∧
      (expected = .anything ∨ found.kind = expected) := by
  rw [evaluate, Trial.value_andThen] at evaluates
  rcases Outcome.bind_eq_success evaluates with ⟨value, isValue, expects⟩
  rcases Value.expect_eq_success expects with ⟨rfl, fits⟩
  exact ⟨isValue, fits⟩

theorem evaluate_anything (depth : Nat) (environment : Environment) (node : Node) :
    (evaluate depth environment .anything node).value = (value depth environment node).value := by
  rw [evaluate, Trial.value_andThen]
  cases (value depth environment node).value <;> rfl

/-- What a single level of evaluation can come to.  There is no room for the
elements of a sequence, so only an empty one is found. -/
theorem value_one {environment : Environment} {node : Node} {found : Value}
    (evaluates : (value 1 environment node).value = .success found) :
    (∃ number, found = .number number) ∨ found = .sequence [] := by
  rw [value, Trial.value_afterPause] at evaluates
  cases node with
  | number value => cases evaluates; exact .inl ⟨value, rfl⟩
  | name text =>
      simp only [rule] at evaluates
      split at evaluates
      · cases evaluates
      · cases evaluates; exact .inl ⟨_, rfl⟩
      · cases evaluates
  | operation operator operands =>
      refine .inl ?_
      cases operator with
      | plus | minus | times | power =>
          simp only [rule, operation, Trial.value_map] at evaluates
          rcases Outcome.map_eq_success evaluates with ⟨_, _, rfl⟩
          exact ⟨_, rfl⟩
      | _ =>
          -- Only division can fail once its operands are numbers.
          simp only [rule, operation, Trial.value_andThen] at evaluates
          rcases Outcome.bind_eq_success evaluates with ⟨⟨dividend, divisors⟩, _, divides⟩
          dsimp only at divides
          split at divides
          · cases divides
          · cases divides; exact ⟨_, rfl⟩
  | sequence nodes =>
      cases nodes with
      | nil => cases evaluates; exact .inr rfl
      | cons node nodes => cases evaluates
  | _ => cases evaluates

/-- A value evaluates to itself wherever and whenever there is as much room as was
needed to find it. -/
theorem value_found {depth : Nat} {environment : Environment} {node : Node} {found : Value}
    (evaluates : (value depth environment node).value = .success found) {more : Nat}
    (enough : depth ≤ more) (other : Environment) :
    (value more other found.toNode).value = .success found := by
  rcases depth with _ | _ | depth
  · cases evaluates
  · obtain ⟨more, rfl⟩ : ∃ fewer, more = fewer + 1 := ⟨more - 1, by omega⟩
    rcases value_one evaluates with ⟨number, rfl⟩ | rfl
    · rfl
    · rfl
  · obtain ⟨more, rfl⟩ : ∃ fewer, more = fewer + 2 := ⟨more - 2, by omega⟩
    rw [value_toNode, value_normalRun]

/-- A value can be written down where it was found, without a pause. -/
theorem display_found_eq_succeed {depth : Nat} {environment : Environment} {node : Node}
    {found : Value} (evaluates : (value depth environment node).value = .success found)
    (other : Environment) : display depth other found.toNode = .succeed found.text := by
  rcases depth with _ | _ | depth
  · cases evaluates
  · rcases value_one evaluates with ⟨number, rfl⟩ | rfl
    · rfl
    · rfl
  · exact display_toNode_eq_succeed depth other found

/-!
## The report of a value of the wrong kind
-/

/-- The message about a value of the wrong kind, given how it is written. -/
def mismatch (found : Value) (expected : Kind) (written : Text) : Text :=
  "expression ".toList ++ written ++ " should be a ".toList ++ expected.name ++
    ", yet it is a ".toList ++ found.kind.name

/-- A value of an expected kind.  Any other is displayed first, which may pause and fail
in its own way, and then the message is made of what was displayed. -/
def expectDisplayed (depth : Nat) (environment : Environment) (expected : Kind)
    (found : Value) : Trial Text Value :=
  if expected = .anything || found.kind = expected then .succeed found
  else
    (display depth environment found.toNode).told.andThen fun written =>
      .fail (mismatch found expected written)

/-- Evaluation does what it would do if it displayed a value of the wrong kind: the run
is the same, with its pauses and the message of any failure. -/
theorem evaluate_told (depth : Nat) (environment : Environment) (expected : Kind)
    (node : Node) :
    (evaluate depth environment expected node).told =
      (value depth environment node).told.andThen
        (expectDisplayed depth environment expected) := by
  rw [evaluate, Trial.told_andThen]
  refine Trial.andThen_congr fun found evaluates => ?_
  rw [Trial.value_told] at evaluates
  have displayed := display_found_eq_succeed (Outcome.told_eq_success evaluates) environment
  rw [expectDisplayed, Value.expect, displayed]
  split <;> rfl

/-- A declaration binds a normal form. -/
theorem isNormal_declared (depth : Nat) {environment : Environment}
    (normal : environment.IsNormal) (node : Node) : (declared depth environment node).IsNormal := by
  cases node with
  | declare name expression =>
      simp only [declared]
      split
      · next found name _ _ => exact normal.assign name found.isNormal_toNode
      · exact normal
  | _ => exact normal

theorem isNormal_foldl_declared (depth : Nat) {environment : Environment}
    (normal : environment.IsNormal) (nodes : List Node) :
    (nodes.foldl (declared depth) environment).IsNormal := by
  induction nodes generalizing environment with
  | nil => exact normal
  | cons node nodes inductionHypothesis =>
      exact inductionHypothesis (isNormal_declared depth normal node)

/-- However often a program was resumed, it has left normal forms only. -/
theorem isNormal_program_after (depth : Nat) (printed : List Printed) (nodes : List Node)
    {start : Environment} (normal : start.IsNormal) (resumed : Nat) :
    ((program depth printed nodes start).after resumed).environment.IsNormal := by
  have ofCompletes : forall {done : List Node} {items : List Printed} {environment : Environment}
      {count : Nat}, Completes depth start done items environment count ->
      environment.IsNormal := by
    intro done items environment count completes
    rw [completes.environment_eq]
    exact isNormal_foldl_declared depth normal done
  have standing := standing_after depth printed nodes start resumed
  generalize (program depth printed nodes start).after resumed = reached at standing ⊢
  cases standing with
  | inside split completes begun unfinished => exact ofCompletes completes
  | failed split completes fails => exact ofCompletes completes
  | stopped split completes stops => exact ofCompletes completes
  | completed completes => exact ofCompletes completes

end Evaluation

namespace Activity

variable {α : Type}

/-- An activity that is watched up to a limit is seen at some number of
resumptions. -/
theorem exists_after_account (limit : Option Nat) (suspensions : Nat) (activity : Activity α) :
    ∃ resumed, (activity.account limit suspensions).environment =
      (activity.after resumed).environment := by
  induction activity generalizing suspensions with
  | finished environment outcome => exact ⟨0, rfl⟩
  | suspended environment resume inductionHypothesis =>
      rw [account]
      split
      · exact ⟨0, rfl⟩
      · rcases inductionHypothesis environment (suspensions + 1) with ⟨resumed, same⟩
        exact ⟨resumed + 1, same⟩

theorem exists_after_complete (activity : Activity α) :
    ∃ resumed, activity.complete.1 = (activity.after resumed).environment := by
  induction activity with
  | finished environment outcome => exact ⟨0, rfl⟩
  | suspended environment resume inductionHypothesis =>
      rcases inductionHypothesis environment with ⟨resumed, same⟩
      exact ⟨resumed + 1, same⟩

end Activity

end SequenceCalculator
