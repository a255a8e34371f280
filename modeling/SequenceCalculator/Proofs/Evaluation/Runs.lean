import SequenceCalculator.Evaluation.Program
import SequenceCalculator.Proofs.Outcomes

namespace SequenceCalculator

/-!
# What a run comes to

A run is resumed after every pause until it is done.  The lemmas here say what
each way of building a run does to the value it comes to.  They keep the pauses
out of every later statement that is about results only; statements about
pauses are made about the runs themselves.
-/

namespace Run

variable {α β : Type}

@[simp]
theorem value_bind (run : Run α) (next : α -> Run β) :
    (run.bind next).value = (next run.value).value := by
  induction run with
  | done result => rfl
  | paused resume inductionHypothesis => exact inductionHypothesis ()

end Run

namespace Trial

variable {ε α β : Type}

@[simp]
theorem value_succeed (value : α) : (succeed value : Trial ε α).value = .success value := rfl

@[simp]
theorem value_stop (fault : Fault) : (stop fault : Trial ε α).value = .fault fault := rfl

@[simp]
theorem value_ofOutcome (outcome : Outcome ε α) : (ofOutcome outcome).value = outcome := rfl

@[simp]
theorem value_andThen (trial : Trial ε α) (next : α -> Trial ε β) :
    (trial.andThen next).value = trial.value.bind fun value => (next value).value := by
  simp only [andThen, Run.value_bind]
  cases trial.value <;> rfl

@[simp]
theorem value_map (trial : Trial ε α) (change : α -> β) :
    (trial.map change).value = trial.value.map change := by
  simp only [map, value_andThen]
  cases trial.value <;> rfl

@[simp]
theorem value_afterPause (next : Unit -> Trial ε α) :
    (afterPause next).value = (next ()).value := rfl

theorem value_traverseFrom (step : α -> Trial ε β) (found : List β) (items : List α) :
    (traverseFrom step found items).value =
      (Outcome.traverse (fun item => (step item).value) items).map (found.reverse ++ ·) := by
  induction items generalizing found with
  | nil => simp [traverseFrom, Outcome.traverse]
  | cons item rest inductionHypothesis =>
      simp only [traverseFrom, Outcome.traverse, value_andThen]
      cases (step item).value with
      | success value =>
          simp only [Outcome.bind_success, inductionHypothesis, List.reverse_cons,
            List.append_assoc, List.singleton_append]
          cases Outcome.traverse (fun item => (step item).value) rest <;> rfl
      | failure reason => rfl
      | fault cause => rfl

/-- A traversal comes to what the results of its steps come to. -/
@[simp]
theorem value_traverse (step : α -> Trial ε β) (items : List α) :
    (traverse step items).value =
      Outcome.traverse (fun item => (step item).value) items := by
  simp only [traverse, value_traverseFrom, List.reverse_nil, List.nil_append]
  cases Outcome.traverse (fun item => (step item).value) items <;> rfl

/-- Only the step at the items themselves matters to a traversal, its pauses
included. -/
theorem traverseFrom_congr {first second : α -> Trial ε β} {items : List α}
    (agree : forall item, item ∈ items -> first item = second item) (found : List β) :
    traverseFrom first found items = traverseFrom second found items := by
  induction items generalizing found with
  | nil => rfl
  | cons item rest inductionHypothesis =>
      simp only [traverseFrom, agree item List.mem_cons_self]
      congr 1
      funext value
      exact inductionHypothesis (fun other member =>
        agree other (List.mem_cons_of_mem item member)) (value :: found)

/-- Where no step pauses or fails, a traversal does not either. -/
theorem traverseFrom_succeed {step : α -> Trial ε β} {items : List α} {values : List β}
    (each : List.Forall₂ (fun item value => step item = succeed value) items values)
    (found : List β) : traverseFrom step found items = succeed (found.reverse ++ values) := by
  induction each generalizing found with
  | nil => rw [traverseFrom, List.append_nil]
  | @cons item value items values gives others inductionHypothesis =>
      rw [traverseFrom, gives]
      refine (inductionHypothesis (value :: found)).trans ?_
      rw [List.reverse_cons, List.append_assoc, List.singleton_append]

theorem traverse_congr {first second : α -> Trial ε β} {items : List α}
    (agree : forall item, item ∈ items -> first item = second item) :
    traverse first items = traverse second items :=
  traverseFrom_congr agree []

/-- Only what is done with the value of a run matters to how it goes on. -/
theorem andThen_congr {trial : Trial ε α} {first second : α -> Trial ε β}
    (agree : forall value, trial.value = .success value -> first value = second value) :
    trial.andThen first = trial.andThen second := by
  induction trial with
  | done outcome =>
      cases outcome with
      | success value => exact agree value rfl
      | failure reason => rfl
      | fault cause => rfl
  | paused resume inductionHypothesis =>
      simp only [andThen, Run.bind] at inductionHypothesis ⊢
      congr 1
      funext moment
      exact inductionHypothesis moment agree

end Trial

namespace Activity

variable {α β : Type}

/-- Nobody interrupts a run: then only what it comes to matters, and the
environment is the one it was started in. -/
theorem complete_follow (environment : Environment) (next : Environment -> α -> Activity β)
    (trial : Trial Failure α) :
    (follow environment next trial).complete =
      match trial.value with
      | .success value => (next environment value).complete
      | .failure reason => (environment, .failure reason)
      | .fault fault => (environment, .fault fault) := by
  induction trial with
  | done outcome => cases outcome <;> rfl
  | paused resume inductionHypothesis => exact inductionHypothesis ()

end Activity

end SequenceCalculator
