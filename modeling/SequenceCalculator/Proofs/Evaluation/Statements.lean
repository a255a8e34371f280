import SequenceCalculator.Proofs.Evaluation.Runs

namespace SequenceCalculator

/-!
# A program is its statements, one after the other

A program is written as one activity in which each statement goes on with the
rest.  Here it is taken apart again: `Evaluation.alone` is a single statement
that nobody follows, and a program is such statements joined by
`Activity.andThen`.

The main result says where a program stands after it was resumed a number of
times: some of its statements are completed, and it is suspended inside the next
one, or that one has failed, or none is left.  Only completed declarations have
changed the environment.  Nothing is assumed of the statements; they may be
trees that no text produces.
-/

namespace Activity

variable {α β : Type}

/-- The activity after it was resumed a number of times, each time from the
environment it had left. -/
def after : Nat -> Activity α -> Activity α
  | 0, activity => activity
  | _ + 1, .finished environment outcome => .finished environment outcome
  | count + 1, .suspended environment resume => (resume environment).after count

/-- How often an activity that nobody interrupts is suspended. -/
def suspensions : Activity α -> Nat
  | .finished _ _ => 0
  | .suspended environment resume => (resume environment).suspensions + 1

/-- Goes on when an activity ends with a value. -/
def andThen (next : Environment -> α -> Activity β) : Activity α -> Activity β
  | .finished environment (.success value) => next environment value
  | .finished environment (.failure reason) => .finished environment (.failure reason)
  | .finished environment (.fault fault) => .finished environment (.fault fault)
  | .suspended environment resume =>
      .suspended environment fun environment => (resume environment).andThen next

theorem after_finished (count : Nat) (environment : Environment) (outcome : Outcome Failure α) :
    (finished environment outcome).after count = finished environment outcome := by
  cases count <;> rfl

/-- One more resumption resumes what was reached before it. -/
theorem after_succ (count : Nat) (activity : Activity α) :
    activity.after (count + 1) = (activity.after count).after 1 := by
  induction count generalizing activity with
  | zero => rfl
  | succ count inductionHypothesis =>
      cases activity with
      | finished environment outcome => simp only [after_finished]
      | suspended environment resume => exact inductionHypothesis (resume environment)

/-- An activity that has ended after some resumptions has ended as it does when
nobody interrupts it. -/
theorem complete_of_after {count : Nat} {activity : Activity α} {environment : Environment}
    {outcome : Outcome Failure α}
    (ended : activity.after count = .finished environment outcome) :
    activity.complete = (environment, outcome) := by
  induction count generalizing activity with
  | zero => rw [after] at ended; rw [ended]; rfl
  | succ count inductionHypothesis =>
      cases activity with
      | finished left outcome => rw [after_finished] at ended; cases ended; rfl
      | suspended left resume => exact @inductionHypothesis (resume left) ended

theorem after_of_lt_suspensions {count : Nat} {activity : Activity α}
    (inside : count < activity.suspensions) :
    ∃ environment resume, activity.after count = .suspended environment resume := by
  induction count generalizing activity with
  | zero =>
      cases activity with
      | finished environment outcome => cases inside
      | suspended environment resume => exact ⟨environment, resume, rfl⟩
  | succ count inductionHypothesis =>
      cases activity with
      | finished environment outcome => cases inside
      | suspended environment resume =>
          exact inductionHypothesis (Nat.lt_of_succ_lt_succ inside)

/-- As long as the first activity is suspended, so is the whole. -/
theorem after_andThen_of_lt {next : Environment -> α -> Activity β} {count : Nat}
    {activity : Activity α} (inside : count < activity.suspensions) :
    (activity.andThen next).after count = (activity.after count).andThen next := by
  induction count generalizing activity with
  | zero => rfl
  | succ count inductionHypothesis =>
      cases activity with
      | finished environment outcome => cases inside
      | suspended environment resume =>
          exact inductionHypothesis (Nat.lt_of_succ_lt_succ inside)

/-- The resumption that ends the first activity goes on with the second. -/
theorem after_andThen_of_le (next : Environment -> α -> Activity β) (count : Nat)
    (activity : Activity α) :
    (activity.andThen next).after (activity.suspensions + count) =
      (andThen next (.finished activity.complete.1 activity.complete.2)).after count := by
  induction activity with
  | finished environment outcome => rw [suspensions, Nat.zero_add]; rfl
  | suspended environment resume inductionHypothesis =>
      rw [suspensions, Nat.add_right_comm]
      exact inductionHypothesis environment

theorem complete_andThen (next : Environment -> α -> Activity β) (activity : Activity α) :
    (activity.andThen next).complete =
      (andThen next (.finished activity.complete.1 activity.complete.2)).complete := by
  induction activity with
  | finished environment outcome => rfl
  | suspended environment resume inductionHypothesis => exact inductionHypothesis environment

theorem suspensions_andThen (next : Environment -> α -> Activity β) (activity : Activity α) :
    (activity.andThen next).suspensions = activity.suspensions +
      (andThen next (.finished activity.complete.1 activity.complete.2)).suspensions := by
  induction activity with
  | finished environment outcome => rw [suspensions, Nat.zero_add]; rfl
  | suspended environment resume inductionHypothesis =>
      simp only [andThen, suspensions, inductionHypothesis environment, complete]
      omega

theorem after_suspensions (activity : Activity α) :
    activity.after activity.suspensions =
      .finished activity.complete.1 activity.complete.2 := by
  induction activity with
  | finished environment outcome => rfl
  | suspended environment resume inductionHypothesis => exact inductionHypothesis environment

theorem andThen_follow {γ : Type} (environment : Environment)
    (first : Environment -> γ -> Activity α) (next : Environment -> α -> Activity β)
    (trial : Trial Failure γ) :
    (follow environment first trial).andThen next =
      follow environment (fun environment value => (first environment value).andThen next)
        trial := by
  induction trial generalizing environment with
  | done outcome => cases outcome <;> rfl
  | paused resume inductionHypothesis =>
      simp only [follow, andThen]
      congr 1
      funext later
      exact inductionHypothesis () later

/-- A run leaves the environment alone until it ends.  Then the activity goes on
as `next` does. -/
theorem follow_after_suspended {next : Environment -> α -> Activity β}
    (ends : forall environment value, (next environment value).suspensions = 0)
    {count : Nat} {environment left : Environment} {resume : Environment -> Activity β}
    {trial : Trial Failure α}
    (suspended : (follow environment next trial).after count = .suspended left resume) :
    left = environment := by
  induction trial generalizing count with
  | done outcome =>
      cases outcome with
      | success value =>
          simp only [follow] at suspended
          have none := ends environment value
          cases reached : next environment value with
          | finished final outcome => rw [reached, after_finished] at suspended; cases suspended
          | suspended final later => rw [reached, suspensions] at none; cases none
      | failure reason => rw [follow, after_finished] at suspended; cases suspended
      | fault fault => rw [follow, after_finished] at suspended; cases suspended
  | paused later inductionHypothesis =>
      cases count with
      | zero => rw [follow, after] at suspended; cases suspended; rfl
      | succ count => exact inductionHypothesis () suspended

end Activity

namespace Evaluation

/-- A single statement that nobody follows. -/
def alone (depth : Nat) (environment : Environment) (node : Node) : Activity Printed :=
  statement depth environment
    (fun environment item => .finished environment (.success item)) node

/-- The bindings after a declaration: its name is bound to the value of its
expression.  Other statements bind nothing, and neither does a declaration whose
expression has no value. -/
def declared (depth : Nat) (environment : Environment) : Node -> Environment
  | .declare name expression =>
      match (value depth environment expression).value, boundName name with
      | .success found, .ok name => assign environment name found.toNode
      | _, _ => environment
  | _ => environment

/-- A statement goes on as it was told to when it has ended. -/
theorem statement_eq_andThen {α : Type} (depth : Nat) (environment : Environment)
    (next : Environment -> Printed -> Activity α) (node : Node) :
    statement depth environment next node = (alone depth environment node).andThen next := by
  cases node with
  | declare name expression =>
      simp only [alone, statement, Activity.andThen_follow]
      congr 1
      funext left found
      cases boundName name <;> rfl
  | out expression => simp only [alone, statement, Activity.andThen_follow]; rfl
  | print content =>
      simp only [alone, statement]
      cases literal content <;> rfl
  | _ => rfl

theorem program_cons (depth : Nat) (printed : List Printed) (node : Node) (nodes : List Node)
    (environment : Environment) :
    program depth printed (node :: nodes) environment =
      (alone depth environment node).andThen fun environment item =>
        program depth (printed ++ [item]) nodes environment := by
  rw [program, statement_eq_andThen]

section First

variable {depth : Nat} {environment next : Environment} {node : Node}

/-- Behind a first statement that is completed, a program goes on with the rest. -/
theorem complete_program_of_success {item : Printed}
    (done : (alone depth environment node).complete = (next, .success item))
    (printed : List Printed) (nodes : List Node) :
    (program depth printed (node :: nodes) environment).complete =
      (program depth (printed ++ [item]) nodes next).complete := by
  rw [program_cons, Activity.complete_andThen, done, Activity.andThen]

theorem complete_program_of_failure {reason : Failure}
    (fails : (alone depth environment node).complete = (next, .failure reason))
    (printed : List Printed) (nodes : List Node) :
    (program depth printed (node :: nodes) environment).complete = (next, .failure reason) := by
  rw [program_cons, Activity.complete_andThen, fails, Activity.andThen, Activity.complete]

theorem complete_program_of_fault {cause : Fault}
    (stops : (alone depth environment node).complete = (next, .fault cause))
    (printed : List Printed) (nodes : List Node) :
    (program depth printed (node :: nodes) environment).complete = (next, .fault cause) := by
  rw [program_cons, Activity.complete_andThen, stops, Activity.andThen, Activity.complete]

end First

/-- Only a completed declaration changes the bindings, and it changes them as
declared. -/
theorem complete_alone (depth : Nat) (environment : Environment) (node : Node) :
    (exists item, (alone depth environment node).complete =
      (declared depth environment node, .success item)) ∨
    (exists reason, (alone depth environment node).complete =
      (environment, .failure reason)) ∨
    exists fault, (alone depth environment node).complete = (environment, .fault fault) := by
  cases node with
  | declare name expression =>
      simp only [alone, statement, declared, Activity.complete_follow]
      cases (value depth environment expression).value with
      | success found =>
          cases boundName name with
          | ok name => exact .inl ⟨_, rfl⟩
          | error fault => exact .inr (.inr ⟨_, rfl⟩)
      | failure reason => exact .inr (.inl ⟨_, rfl⟩)
      | fault fault => exact .inr (.inr ⟨_, rfl⟩)
  | out expression =>
      simp only [alone, statement, declared, Activity.complete_follow]
      cases (display depth environment expression).value with
      | success found => exact .inl ⟨_, rfl⟩
      | failure reason => exact .inr (.inl ⟨_, rfl⟩)
      | fault fault => exact .inr (.inr ⟨_, rfl⟩)
  | print content =>
      simp only [alone, statement, declared]
      cases literal content with
      | ok item => exact .inl ⟨_, rfl⟩
      | error fault => exact .inr (.inr ⟨_, rfl⟩)
  | _ => exact .inr (.inr ⟨_, rfl⟩)

theorem alone_after_suspended {depth count : Nat} {environment left : Environment} {node : Node}
    {resume : Environment -> Activity Printed}
    (suspended : (alone depth environment node).after count = .suspended left resume) :
    left = environment := by
  cases node with
  | declare name expression =>
      refine Activity.follow_after_suspended (fun environment found => ?_) suspended
      cases boundName name <;> rfl
  | out expression =>
      exact Activity.follow_after_suspended (fun environment found => rfl) suspended
  | print content =>
      simp only [alone, statement] at suspended
      cases written : literal content with
      | ok item => rw [written, Activity.after_finished] at suspended; cases suspended
      | error fault => rw [written, Activity.after_finished] at suspended; cases suspended
  | _ => simp only [alone, statement, Activity.after_finished] at suspended; cases suspended

/-- Statements that all succeed when they are carried out one after the other:
what they put out, the bindings they lead to and how often they are suspended. -/
inductive Completes (depth : Nat) :
    Environment -> List Node -> List Printed -> Environment -> Nat -> Prop where
  | nil (environment : Environment) : Completes depth environment [] [] environment 0
  | cons {environment next last : Environment} {node : Node} {nodes : List Node}
      {item : Printed} {items : List Printed} {count : Nat}
      (first : (alone depth environment node).complete = (next, .success item))
      (rest : Completes depth next nodes items last count) :
      Completes depth environment (node :: nodes) (item :: items) last
        ((alone depth environment node).suspensions + count)

/-- Completed statements have made their declarations and nothing else. -/
theorem Completes.environment_eq {depth count : Nat} {environment last : Environment}
    {nodes : List Node} {items : List Printed}
    (completes : Completes depth environment nodes items last count) :
    last = nodes.foldl (declared depth) environment := by
  induction completes with
  | nil environment => rfl
  | @cons environment next last node nodes item items count first rest inductionHypothesis =>
      rcases complete_alone depth environment node with ⟨_, done⟩ | ⟨_, failed⟩ | ⟨_, stopped⟩
      · rw [first] at done
        cases done
        exact inductionHypothesis
      · rw [first] at failed; cases failed
      · rw [first] at stopped; cases stopped

/-- Behind completed statements a program goes on as the rest of it does. -/
theorem Completes.complete_program {depth count : Nat} {start last : Environment}
    {done : List Node} {items : List Printed}
    (completes : Completes depth start done items last count)
    (printed : List Printed) (rest : List Node) :
    (program depth printed (done ++ rest) start).complete =
      (program depth (printed ++ items) rest last).complete := by
  induction completes generalizing printed with
  | nil environment => rw [List.nil_append, List.append_nil]
  | @cons environment next last node nodes item items count first others inductionHypothesis =>
      rw [List.cons_append, complete_program_of_success first, inductionHypothesis,
        List.append_assoc, List.singleton_append]

/-- Where a program stands that was resumed a number of times.  `printed` was put
out before the program began. -/
inductive Standing (depth : Nat) (start : Environment) (printed : List Printed)
    (nodes : List Node) (resumed : Nat) : Activity Text -> Prop where
  /-- It is suspended inside a statement. -/
  | inside {done rest : List Node} {node : Node} {items : List Printed}
      {environment : Environment} {count : Nat} {resume : Environment -> Activity Text}
      (split : nodes = done ++ node :: rest)
      (completes : Completes depth start done items environment count)
      (begun : count ≤ resumed)
      (unfinished : resumed < count + (alone depth environment node).suspensions) :
      Standing depth start printed nodes resumed (.suspended environment resume)
  /-- A statement has failed. -/
  | failed {done rest : List Node} {node : Node} {items : List Printed}
      {environment : Environment} {count : Nat} {reason : Failure}
      (split : nodes = done ++ node :: rest)
      (completes : Completes depth start done items environment count)
      (fails : (alone depth environment node).complete.2 = .failure reason) :
      Standing depth start printed nodes resumed (.finished environment (.failure reason))
  /-- A statement has ended with a fault. -/
  | stopped {done rest : List Node} {node : Node} {items : List Printed}
      {environment : Environment} {count : Nat} {fault : Fault}
      (split : nodes = done ++ node :: rest)
      (completes : Completes depth start done items environment count)
      (stops : (alone depth environment node).complete.2 = .fault fault) :
      Standing depth start printed nodes resumed (.finished environment (.fault fault))
  /-- All statements are completed and their output is joined. -/
  | completed {items : List Printed} {environment : Environment} {count : Nat}
      (completes : Completes depth start nodes items environment count) :
      Standing depth start printed nodes resumed
        (.finished environment (Outcome.ofExcept (joinFrom 0 (printed ++ items))))

/-- A completed statement in front. -/
theorem Standing.cons {depth resumed : Nat} {environment next : Environment} {node : Node}
    {nodes : List Node} {printed : List Printed} {item : Printed} {activity : Activity Text}
    (first : (alone depth environment node).complete = (next, .success item))
    (standing : Standing depth next (printed ++ [item]) nodes resumed activity) :
    Standing depth environment printed (node :: nodes)
      ((alone depth environment node).suspensions + resumed) activity := by
  cases standing with
  | inside split completes begun unfinished =>
      refine .inside (by rw [split]; rfl) (.cons first completes) ?_ ?_
      · omega
      · omega
  | failed split completes fails =>
      exact .failed (by rw [split]; rfl) (.cons first completes) fails
  | stopped split completes stops =>
      exact .stopped (by rw [split]; rfl) (.cons first completes) stops
  | completed completes =>
      have joined : Standing depth environment printed (node :: nodes)
          ((alone depth environment node).suspensions + resumed) _ :=
        .completed (.cons first completes)
      simpa only [List.append_assoc, List.singleton_append] using joined

/-- A program that was resumed a number of times stands somewhere.  The induction
is on the statements: either the resumptions do not reach the end of the first
one, or it has ended and those left over are given to the rest. -/
theorem standing_after (depth : Nat) (printed : List Printed) (nodes : List Node)
    (start : Environment) (resumed : Nat) :
    Standing depth start printed nodes resumed
      ((program depth printed nodes start).after resumed) := by
  induction nodes generalizing printed start resumed with
  | nil =>
      rw [program, Activity.after_finished]
      have joined : Standing depth start printed [] resumed _ := .completed (.nil start)
      simpa only [List.append_nil] using joined
  | cons node nodes inductionHypothesis =>
      have split : node :: nodes = [] ++ node :: nodes := rfl
      rw [program_cons]
      by_cases inside : resumed < (alone depth start node).suspensions
      · rcases Activity.after_of_lt_suspensions inside with ⟨left, resume, suspended⟩
        rw [Activity.after_andThen_of_lt inside, suspended, alone_after_suspended suspended]
        exact .inside split (.nil start) (Nat.zero_le _) (by omega)
      · obtain ⟨later, rfl⟩ : ∃ later, resumed = (alone depth start node).suspensions + later :=
          ⟨resumed - (alone depth start node).suspensions, by omega⟩
        rw [Activity.after_andThen_of_le]
        rcases complete_alone depth start node with
          ⟨item, done⟩ | ⟨reason, failed⟩ | ⟨fault, stopped⟩
        · have rest := inductionHypothesis (printed ++ [item]) (declared depth start node) later
          rw [done]
          exact rest.cons done
        · rw [failed, Activity.andThen, Activity.after_finished]
          exact .failed split (.nil start) (by rw [failed])
        · rw [stopped, Activity.andThen, Activity.after_finished]
          exact .stopped split (.nil start) (by rw [stopped])

/-- Statements that put out texts.  A printed number, which no text produces, is
the only statement that puts out something else. -/
def PutsText : Node -> Prop
  | .declare _ _ => True
  | .out _ => True
  | .print (.string _) => True
  | _ => False

theorem PutsText.item {depth : Nat} {environment next : Environment} {node : Node}
    {item : Printed} (puts : PutsText node)
    (done : (alone depth environment node).complete = (next, .success item)) :
    ∃ content, item = .text content := by
  cases node with
  | declare name expression =>
      simp only [alone, statement, Activity.complete_follow] at done
      cases found : (value depth environment expression).value with
      | success value =>
          simp only [found] at done
          cases bound : boundName name with
          | ok name => simp only [bound, Activity.complete] at done; cases done; exact ⟨_, rfl⟩
          | error fault => simp only [bound, Activity.complete] at done; cases done
      | failure reason => simp only [found] at done; cases done
      | fault fault => simp only [found] at done; cases done
  | out expression =>
      simp only [alone, statement, Activity.complete_follow] at done
      cases found : (display depth environment expression).value with
      | success text => simp only [found, Activity.complete] at done; cases done; exact ⟨_, rfl⟩
      | failure reason => simp only [found] at done; cases done
      | fault fault => simp only [found] at done; cases done
  | print literal =>
      cases literal with
      | string content => cases done; exact ⟨content, rfl⟩
      | _ => cases puts
  | _ => cases puts

theorem Completes.items {depth count : Nat} {start last : Environment} {nodes : List Node}
    {items : List Printed} (completes : Completes depth start nodes items last count)
    (puts : forall node, node ∈ nodes -> PutsText node) :
    forall item, item ∈ items -> ∃ content, item = .text content := by
  induction completes with
  | nil environment => intro item member; cases member
  | @cons environment next last node nodes item items count first rest inductionHypothesis =>
      intro other member
      rcases List.mem_cons.mp member with rfl | later
      · exact (puts node List.mem_cons_self).item first
      · exact inductionHypothesis (fun node member => puts node (List.mem_cons_of_mem _ member))
          other later

/-- Texts can be joined. -/
theorem joinFrom_of_texts {items : List Printed}
    (texts : forall item, item ∈ items -> ∃ content, item = .text content) (index : Nat) :
    ∃ text, joinFrom index items = .ok text := by
  induction items generalizing index with
  | nil => exact ⟨[], rfl⟩
  | cons item items inductionHypothesis =>
      rcases texts item List.mem_cons_self with ⟨content, rfl⟩
      rcases inductionHypothesis (fun item member => texts item (List.mem_cons_of_mem _ member))
        (index + 1) with ⟨text, joined⟩
      refine ⟨content ++ text, ?_⟩
      rw [joinFrom, joined]
      rfl

end Evaluation

end SequenceCalculator
