import SequenceCalculator.Proofs.Evaluation.Statements

namespace SequenceCalculator

/-!
# Cancellation falls between statements

A program can be cancelled wherever it is suspended: before any expression inside
a statement, also before those that are evaluated again and again in a map or a
fold.  The bindings that are then left are nevertheless those of whole statements.
No declaration is half made, and no completed statement is undone.

Nothing is assumed of the statements.  They may fail or end with a fault, and they
need not come from a text.
-/

namespace Activity

variable {α : Type}

theorem account_none (count : Nat) (activity : Activity α) :
    activity.account none count =
      ⟨count + activity.suspensions, activity.complete.1, .finished activity.complete.2⟩ := by
  induction activity generalizing count with
  | finished environment outcome => rfl
  | suspended environment resume inductionHypothesis =>
      rw [account, if_neg (Option.some_ne_none _).symm, inductionHypothesis environment,
        suspensions, complete, Nat.add_right_comm, Nat.add_assoc]

/-- A limit that is never reached changes nothing. -/
theorem account_of_gt {limit count : Nat} {activity : Activity α}
    (beyond : count + activity.suspensions < limit) :
    activity.account (some limit) count = activity.account none count := by
  induction activity generalizing count with
  | finished environment outcome => rfl
  | suspended environment resume inductionHypothesis =>
      rw [suspensions] at beyond
      have differs : ¬ some limit = some (count + 1) := by
        rw [Option.some_inj]
        omega
      rw [account, account, if_neg differs, if_neg (Option.some_ne_none _).symm]
      exact inductionHypothesis environment (by omega)

/-- At its limit an activity is left as it is suspended there. -/
theorem account_of_le {limit count : Nat} {activity : Activity α} (later : count < limit)
    (reached : limit ≤ count + activity.suspensions) :
    activity.account (some limit) count =
      ⟨limit, (activity.after (limit - count - 1)).environment, .cancelled⟩ := by
  induction activity generalizing count with
  | finished environment outcome =>
      rw [suspensions] at reached
      omega
  | suspended left resume inductionHypothesis =>
      rw [suspensions] at reached
      by_cases here : limit = count + 1
      · subst here
        rw [account, if_pos rfl, Nat.add_sub_cancel_left, Nat.sub_self]
        rfl
      · rw [account, if_neg (by rw [Option.some_inj]; exact here),
          inductionHypothesis left (by omega) (by omega)]
        obtain ⟨more, isMore⟩ : ∃ more, limit - count - 1 = more + 1 :=
          ⟨limit - count - 2, by omega⟩
        rw [isMore, show limit - (count + 1) - 1 = more by omega]
        rfl

end Activity

namespace Evaluation

open Number

/-- What is seen of a program that is cancelled at a suspension, or not at all. -/
def watched (depth : Nat) (nodes : List Node) (environment : Environment)
    (limit : Option Nat) : Account Text :=
  (program depth [] nodes environment).account limit 0

section Completed

variable {depth count : Nat} {start last : Environment} {done : List Node}
  {items : List Printed}

theorem Completes.suspensions_program (completes : Completes depth start done items last count)
    (printed : List Printed) (rest : List Node) :
    (program depth printed (done ++ rest) start).suspensions =
      count + (program depth (printed ++ items) rest last).suspensions := by
  induction completes generalizing printed with
  | nil environment => rw [List.nil_append, List.append_nil, Nat.zero_add]
  | @cons environment next last node nodes item items count first others inductionHypothesis =>
      rw [List.cons_append, program_cons, Activity.suspensions_andThen, first]
      simp only [Activity.andThen, inductionHypothesis, List.append_assoc, List.singleton_append]
      omega

end Completed

/-- The statements in front of others are suspended no more often than all of them. -/
theorem suspensions_program_le (depth : Nat) (printed : List Printed) (first second : List Node)
    (start : Environment) :
    (program depth printed first start).suspensions ≤
      (program depth printed (first ++ second) start).suspensions := by
  induction first generalizing printed start with
  | nil => exact Nat.zero_le _
  | cons node nodes inductionHypothesis =>
      rw [List.cons_append, program_cons, program_cons,
        Activity.suspensions_andThen _ (alone depth start node),
        Activity.suspensions_andThen _ (alone depth start node)]
      refine Nat.add_le_add_left ?_ _
      cases (alone depth start node).complete.2 with
      | success item => exact inductionHypothesis (printed ++ [item]) _
      | failure reason => exact Nat.le_refl _
      | fault cause => exact Nat.le_refl _

/-- A suspension of a program occurs inside the statement behind the first `done`
ones, and those are completed. -/
def SuspendsInside (depth : Nat) (start : Environment) (nodes : List Node)
    (suspension done : Nat) : Prop :=
  ∃ node items environment count, nodes[done]? = some node ∧
    Completes depth start (nodes.take done) items environment count ∧
    count < suspension ∧ suspension ≤ count + (alone depth environment node).suspensions

section Suspended

variable {depth : Nat} {start : Environment} {nodes : List Node}

/-- The statements in front have all their suspensions before, and the statement
itself has not. -/
theorem SuspendsInside.bounds {suspension done : Nat}
    (inside : SuspendsInside depth start nodes suspension done) :
    (program depth [] (nodes.take done) start).suspensions < suspension ∧
      suspension ≤ (program depth [] (nodes.take (done + 1)) start).suspensions := by
  rcases inside with ⟨node, items, environment, count, isNext, completes, begun, unfinished⟩
  constructor
  · have all := completes.suspensions_program [] []
    rw [List.append_nil] at all
    rw [all]
    exact begun
  · rw [List.take_add_one, isNext, Option.toList_some, completes.suspensions_program [] [node],
      program_cons, Activity.suspensions_andThen]
    omega

/-- Later suspensions occur in the same statement or in a later one. -/
theorem SuspendsInside.mono {suspension later done doneLater : Nat}
    (inside : SuspendsInside depth start nodes suspension done)
    (insideLater : SuspendsInside depth start nodes later doneLater)
    (order : suspension ≤ later) : done ≤ doneLater := by
  refine Nat.le_of_not_lt fun fewer => ?_
  obtain ⟨more, rfl⟩ := Nat.exists_eq_add_of_le (show doneLater + 1 ≤ done from fewer)
  have before := inside.bounds.1
  have reached := insideLater.bounds.2
  have longer := suspensions_program_le depth [] (nodes.take (doneLater + 1))
    ((nodes.drop (doneLater + 1)).take more) start
  rw [← List.take_add] at longer
  exact absurd (Nat.le_trans reached longer) (by omega)

/-- Every suspension occurs inside a statement, and the bindings there are those
that the completed statements have left. -/
theorem exists_suspendsInside {suspension : Nat} (positive : 1 ≤ suspension)
    (reached : suspension ≤ (program depth [] nodes start).suspensions) :
    ∃ done, SuspendsInside depth start nodes suspension done ∧
      ((program depth [] nodes start).after (suspension - 1)).environment =
        (program depth [] (nodes.take done) start).complete.1 := by
  have standing := standing_after depth [] nodes start (suspension - 1)
  have earlier : suspension - 1 < (program depth [] nodes start).suspensions := by omega
  rcases Activity.after_of_lt_suspensions earlier with ⟨left, resume, suspended⟩
  rw [suspended] at standing ⊢
  cases standing with
  | @inside done rest node items _ count _ split completes begun unfinished =>
      have first : nodes.take done.length = done := by rw [split, List.take_left]
      refine ⟨done.length, ⟨node, items, left, count, ?_, ?_, by omega, by omega⟩, ?_⟩
      · rw [split, List.getElem?_append_right (Nat.le_refl _), Nat.sub_self]
        rfl
      · rwa [first]
      · have ended := completes.complete_program [] []
        rw [List.append_nil] at ended
        rw [first, ended]
        rfl

end Suspended

/-- A program that is to be cancelled later than it is ever suspended runs as if
nobody cancelled it.  Otherwise it is cancelled at the suspension that was asked
for, which lies inside some statement, and it leaves the bindings of a run of
exactly the statements in front of that one, all of which are completed.  Later
suspensions lie inside the same or later statements.  A single statement that is
cancelled leaves the bindings as they were. -/
theorem cancelled_between_statements (depth : Nat) (nodes : List Node)
    (environment : Environment) :
    (∃ outcome, (watched depth nodes environment none).ending = .finished outcome) ∧
    (forall n, 1 ≤ n -> (watched depth nodes environment none).suspensions < n ->
      watched depth nodes environment (some n) = watched depth nodes environment none) ∧
    (forall n, 1 ≤ n -> n ≤ (watched depth nodes environment none).suspensions ->
      ∃ done, SuspendsInside depth environment nodes n done ∧
        watched depth nodes environment (some n) =
          ⟨n, (watched depth (nodes.take done) environment none).environment, .cancelled⟩) ∧
    (forall n later done doneLater, n ≤ later ->
      SuspendsInside depth environment nodes n done ->
      SuspendsInside depth environment nodes later doneLater -> done ≤ doneLater) ∧
    forall node n, nodes = [node] -> 1 ≤ n ->
      n ≤ (watched depth nodes environment none).suspensions ->
      watched depth nodes environment (some n) = ⟨n, environment, .cancelled⟩ := by
  have complete := Activity.account_none 0 (program depth [] nodes environment)
  rw [Nat.zero_add] at complete
  have counted : (watched depth nodes environment none).suspensions =
      (program depth [] nodes environment).suspensions := by rw [watched, complete]
  rw [counted]
  have cancelled : forall n, 1 ≤ n -> n ≤ (program depth [] nodes environment).suspensions ->
      ∃ done, SuspendsInside depth environment nodes n done ∧
        watched depth nodes environment (some n) =
          ⟨n, (watched depth (nodes.take done) environment none).environment, .cancelled⟩ := by
    intro n positive reached
    rcases exists_suspendsInside positive reached with ⟨done, inside, left⟩
    refine ⟨done, inside, ?_⟩
    rw [watched, Activity.account_of_le positive (by omega), Nat.sub_zero, left, watched,
      Activity.account_none]
  refine ⟨⟨_, by rw [watched, complete]⟩, ?_, cancelled, ?_, ?_⟩
  · intro n _ beyond
    exact Activity.account_of_gt (by omega)
  · intro n later done doneLater order inside insideLater
    exact inside.mono insideLater order
  · rintro node n rfl positive reached
    rcases cancelled n positive reached with ⟨done, inside, ended⟩
    have isFirst : done = 0 := by
      rcases inside with ⟨_, _, _, _, isNext, _⟩
      have bounded := (List.getElem?_eq_some_iff.mp isNext).1
      simpa using bounded
    rw [ended, isFirst]
    rfl

/-- A sum that is declared and then used in another one. -/
def doubled : List Node :=
  [.declare (.name ['x']) (.operation .plus [.number Floating.one, .number Floating.one]),
    .out (.operation .plus [.name ['x'], .name ['x']])]

/-- It is suspended six times, three of them inside each statement. -/
theorem cancelled_between_statements_doubled :
    (watched 9 doubled [] none).suspensions = 6 ∧
    watched 9 doubled [] (some 7) = watched 9 doubled [] none ∧
    (∃ done, SuspendsInside 9 [] doubled 5 done ∧ watched 9 doubled [] (some 5) =
      ⟨5, (watched 9 (doubled.take done) [] none).environment, .cancelled⟩) ∧
    (forall early late, SuspendsInside 9 [] doubled 2 early ->
      SuspendsInside 9 [] doubled 5 late -> early ≤ late) ∧
    watched 9 (doubled.take 1) [] (some 3) = ⟨3, [], .cancelled⟩ := by
  have six : (watched 9 doubled [] none).suspensions = 6 := by decide +kernel
  have three : (watched 9 (doubled.take 1) [] none).suspensions = 3 := by decide +kernel
  have both := cancelled_between_statements 9 doubled []
  have single := cancelled_between_statements 9 (doubled.take 1) []
  rw [six] at both
  rw [three] at single
  refine ⟨six, both.2.1 7 (by decide) (by decide), both.2.2.1 5 (by decide) (by decide), ?_,
    single.2.2.2.2 _ 3 rfl (by decide) (by decide)⟩
  intro early late insideEarly insideLate
  exact both.2.2.2.1 2 5 early late (by decide) insideEarly insideLate

end Evaluation

end SequenceCalculator
