import Mathlib.Data.List.Forall2
import SequenceCalculator.Outcome

namespace SequenceCalculator
namespace Outcome

/-!
# Outcomes one after the other

Going on with an outcome gives a value only if both have one.  A traversal takes a step
at every item until one has no value; it is decided by that item, or by all of them.
-/

variable {ε α β γ : Type}

@[simp]
theorem bind_success (value : α) (next : α -> Outcome ε β) :
    (success value : Outcome ε α).bind next = next value := rfl

@[simp]
theorem bind_failure (reason : ε) (next : α -> Outcome ε β) :
    (failure reason : Outcome ε α).bind next = failure reason := rfl

@[simp]
theorem bind_fault (cause : Fault) (next : α -> Outcome ε β) :
    (fault cause : Outcome ε α).bind next = fault cause := rfl

@[simp]
theorem map_success (value : α) (change : α -> β) :
    (success value : Outcome ε α).map change = success (change value) := rfl

@[simp]
theorem map_failure (reason : ε) (change : α -> β) :
    (failure reason : Outcome ε α).map change = failure reason := rfl

@[simp]
theorem map_fault (cause : Fault) (change : α -> β) :
    (fault cause : Outcome ε α).map change = fault cause := rfl

theorem map_eq_bind (outcome : Outcome ε α) (change : α -> β) :
    outcome.map change = outcome.bind fun value => .success (change value) := by
  cases outcome <;> rfl

theorem bind_eq_success {outcome : Outcome ε α} {next : α -> Outcome ε β} {result : β}
    (succeeds : outcome.bind next = .success result) :
    ∃ value, outcome = .success value ∧ next value = .success result := by
  cases outcome with
  | success value => exact ⟨value, rfl, succeeds⟩
  | failure reason => cases succeeds
  | fault cause => cases succeeds

theorem map_eq_success {outcome : Outcome ε α} {change : α -> β} {result : β}
    (succeeds : outcome.map change = .success result) :
    ∃ value, outcome = .success value ∧ result = change value := by
  cases outcome with
  | success value => cases succeeds; exact ⟨value, rfl, rfl⟩
  | failure reason => cases succeeds
  | fault cause => cases succeeds

theorem exists_of_isSuccess {outcome : Outcome ε α} (hasValue : outcome.isSuccess = true) :
    ∃ value, outcome = .success value := by
  cases outcome with
  | success value => exact ⟨value, rfl⟩
  | failure reason => cases hasValue
  | fault cause => cases hasValue

theorem map_eq_failure {outcome : Outcome ε α} {change : α -> β} {reason : ε}
    (fails : outcome.map change = .failure reason) : outcome = .failure reason := by
  cases outcome <;> cases fails
  rfl

theorem bind_eq_fault {outcome : Outcome ε α} {next : α -> Outcome ε β} {cause : Fault}
    (stops : outcome.bind next = .fault cause) :
    outcome = .fault cause ∨ ∃ value, outcome = .success value ∧ next value = .fault cause := by
  cases outcome with
  | success value => exact .inr ⟨value, rfl, stops⟩
  | failure reason => cases stops
  | fault other => cases stops; exact .inl rfl

theorem map_eq_fault_iff {outcome : Outcome ε α} {change : α -> β} {cause : Fault} :
    outcome.map change = .fault cause ↔ outcome = .fault cause := by
  cases outcome with
  | success value => constructor <;> intro impossible <;> cases impossible
  | failure reason => constructor <;> intro impossible <;> cases impossible
  | fault other =>
      rw [map_fault]
      constructor
      · intro same; cases same; rfl
      · intro same; cases same; rfl

/-!
## Traversals
-/

/-- A traversal ends at the first item that has no value, and as the step does there. -/
theorem traverse_at_first {step : α -> Outcome ε β} {before : List α}
    (values : forall other, other ∈ before -> ∃ value, step other = .success value)
    {item : α} (after : List α) (valueless : (step item).isSuccess = false) :
    traverse step (before ++ item :: after) = (step item).map fun value => [value] := by
  induction before with
  | nil =>
      rw [List.nil_append, traverse]
      cases stops : step item with
      | success value => rw [stops] at valueless; cases valueless
      | failure reason => rfl
      | fault cause => rfl
  | cons first rest inductionHypothesis =>
      rcases values first List.mem_cons_self with ⟨value, found⟩
      have tail := inductionHypothesis fun other member =>
        values other (List.mem_cons_of_mem first member)
      rw [List.cons_append, traverse, found, bind_success, tail]
      cases stops : step item with
      | success value => rw [stops] at valueless; cases valueless
      | failure reason => rfl
      | fault cause => rfl

/-- Either each step has a value, or there is a first item that has none. -/
theorem traverse_cases (step : α -> Outcome ε β) (items : List α) :
    (∃ values, items.map step = values.map .success ∧ traverse step items = .success values) ∨
    ∃ before item after, items = before ++ item :: after ∧
      (forall other, other ∈ before -> ∃ value, step other = .success value) ∧
      (step item).isSuccess = false := by
  induction items with
  | nil => exact .inl ⟨[], rfl, rfl⟩
  | cons item items inductionHypothesis =>
      cases found : step item with
      | failure reason =>
          exact .inr ⟨[], item, items, rfl, (fun _ member => by cases member), by rw [found]; rfl⟩
      | fault cause =>
          exact .inr ⟨[], item, items, rfl, (fun _ member => by cases member), by rw [found]; rfl⟩
      | success value =>
          rcases inductionHypothesis with
            ⟨values, each, all⟩ | ⟨before, stopped, after, rfl, values, valueless⟩
          · refine .inl ⟨value :: values, ?_, ?_⟩
            · rw [List.map_cons, List.map_cons, found, each]
            · rw [traverse, found, bind_success, all, map_success]
          · refine .inr ⟨item :: before, stopped, after, rfl, ?_, valueless⟩
            intro other member
            rcases List.mem_cons.mp member with rfl | earlier
            · exact ⟨value, found⟩
            · exact values other earlier

/-- A traversal has values when each step has one, and gives them in order. -/
theorem traverse_eq_success_iff {step : α -> Outcome ε β} {items : List α} {values : List β} :
    traverse step items = .success values ↔ items.map step = values.map .success := by
  constructor
  · intro succeeds
    rcases traverse_cases step items with
      ⟨others, each, all⟩ | ⟨before, item, after, rfl, found, valueless⟩
    · rw [succeeds] at all
      cases all
      exact each
    · rw [traverse_at_first found after valueless] at succeeds
      rcases map_eq_success succeeds with ⟨value, isValue, _⟩
      rw [isValue] at valueless
      cases valueless
  · intro each
    induction items generalizing values with
    | nil => cases values with
      | nil => rfl
      | cons value values => cases each
    | cons item items inductionHypothesis => cases values with
      | nil => cases each
      | cons value values =>
          rw [List.map_cons, List.map_cons, List.cons.injEq] at each
          rw [traverse, each.1, bind_success, inductionHypothesis each.2, map_success]

/-- A traversal fails as the step does at the first item that has no value. -/
theorem traverse_eq_failure_iff {step : α -> Outcome ε β} {items : List α} {reason : ε} :
    traverse step items = .failure reason ↔ ∃ before item after, items = before ++ item :: after ∧
      (forall other, other ∈ before -> ∃ value, step other = .success value) ∧
      step item = .failure reason := by
  constructor
  · intro fails
    rcases traverse_cases step items with
      ⟨values, _, all⟩ | ⟨before, item, after, rfl, found, valueless⟩
    · rw [fails] at all; cases all
    · refine ⟨before, item, after, rfl, found, ?_⟩
      rw [traverse_at_first found after valueless] at fails
      cases stops : step item with
      | success value => rw [stops] at fails; cases fails
      | failure other => rw [stops] at fails; cases fails; rfl
      | fault cause => rw [stops] at fails; cases fails
  · rintro ⟨before, item, after, rfl, values, fails⟩
    rw [traverse_at_first values after (by rw [fails]; rfl), fails, map_failure]

/-- The same for faults. -/
theorem traverse_eq_fault_iff {step : α -> Outcome ε β} {items : List α} {cause : Fault} :
    traverse step items = .fault cause ↔ ∃ before item after, items = before ++ item :: after ∧
      (forall other, other ∈ before -> ∃ value, step other = .success value) ∧
      step item = .fault cause := by
  constructor
  · intro stops
    rcases traverse_cases step items with
      ⟨values, _, all⟩ | ⟨before, item, after, rfl, found, valueless⟩
    · rw [stops] at all; cases all
    · refine ⟨before, item, after, rfl, found, ?_⟩
      rw [traverse_at_first found after valueless] at stops
      exact map_eq_fault_iff.mp stops
  · rintro ⟨before, item, after, rfl, values, stops⟩
    rw [traverse_at_first values after (by rw [stops]; rfl), stops, map_fault]

/-- An item may be exchanged for one at which the step comes to the same. -/
theorem traverse_exchange {step : α -> Outcome ε β} {item other : α}
    (same : step item = step other) (before after : List α) :
    traverse step (before ++ item :: after) = traverse step (before ++ other :: after) := by
  induction before with
  | nil => simp only [List.nil_append, traverse, same]
  | cons head rest inductionHypothesis =>
      simp only [List.cons_append, traverse, inductionHypothesis]

/-- What is found for items is found for others, when it is at each of them. -/
theorem traverse_of_forall₂ {step : α -> Outcome ε β} {next : γ -> Outcome ε β}
    {related : α -> γ -> Prop} {items : List α} {others : List γ}
    (each : List.Forall₂ related items others)
    (preserves : forall item other value, item ∈ items -> related item other ->
      step item = .success value -> next other = .success value) {values : List β}
    (succeeds : traverse step items = .success values) :
    traverse next others = .success values := by
  induction each generalizing values with
  | nil => exact succeeds
  | @cons item other items others isRelated _ inductionHypothesis =>
      rw [traverse] at succeeds
      rcases bind_eq_success succeeds with ⟨value, found, later⟩
      rcases map_eq_success later with ⟨rest, foundRest, rfl⟩
      have tail := inductionHypothesis (fun item other value member =>
        preserves item other value (List.mem_cons_of_mem _ member)) foundRest
      rw [traverse, preserves item other value List.mem_cons_self isRelated found,
        bind_success, tail, map_success]

theorem exists_success_of_traverse {step : α -> Outcome ε β} {items : List α} {values : List β}
    (succeeds : traverse step items = .success values) {item : α} (member : item ∈ items) :
    ∃ value, step item = .success value := by
  have found : step item ∈ items.map step := List.mem_map_of_mem member
  rw [traverse_eq_success_iff.mp succeeds] at found
  rcases List.mem_map.mp found with ⟨value, _, same⟩
  exact ⟨value, same.symm⟩

end Outcome
end SequenceCalculator
