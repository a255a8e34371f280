import SequenceCalculator.Evaluation.Store
import SequenceCalculator.Proofs.Evaluation.Runs

namespace SequenceCalculator

/-!
# A body never writes to the bindings of its caller

Evaluation with environments passes bindings by value, so that nothing could be written to
them.  On a store the bindings are tables, and a map and a reduce do write to one.  It is
the copy they have made themselves, which did not exist when the evaluation began.

So an evaluation that begins with some store leaves all of its tables alone, at every
suspension and in the end, and as long as others leave them alone too it pauses as often
and has the same outcome as the evaluation with the environment in its table.  The
invariant is carried through every way of going on, from the inside out: what the body is
evaluated in is a table of the store in which the body begins.

A program works on its own table and on no other.  What is seen there while it is
suspended is the environment of the activity.
-/

open Number Evaluation

namespace Store

/-- All tables are still there and unchanged. -/
def Keeps (before after : Store) : Prop :=
  forall (address : Nat) (table : Environment),
    before[address]? = some table -> after[address]? = some table

variable {before between after : Store}

theorem Keeps.refl (store : Store) : store.Keeps store := fun _ _ found => found

theorem Keeps.trans (first : before.Keeps between) (second : between.Keeps after) :
    before.Keeps after :=
  fun address table found => second address table (first address table found)

theorem keeps_append (store : Store) (table : Environment) : store.Keeps (store ++ [table]) := by
  intro address other found
  rw [List.getElem?_append_left (List.getElem?_eq_some_iff.mp found).1, found]

/-- All tables but one are still there and unchanged. -/
def KeepsOthers (before : Store) (address : Nat) (after : Store) : Prop :=
  forall (other : Nat) (table : Environment), other ≠ address ->
    before[other]? = some table -> after[other]? = some table

theorem KeepsOthers.refl (address : Nat) (store : Store) : store.KeepsOthers address store :=
  fun _ _ _ found => found

theorem KeepsOthers.later {address : Nat} (others : before.KeepsOthers address between)
    (keeps : between.Keeps after) : before.KeepsOthers address after :=
  fun other table different found => keeps other table (others other table different found)

theorem KeepsOthers.modify {address : Nat} (others : before.KeepsOthers address after)
    (change : Environment -> Environment) :
    before.KeepsOthers address (after.modify address change) := by
  intro other table different found
  rw [List.getElem?_modify_ne change after different.symm]
  exact others other table different found

/-- A table that was not there before may be written to. -/
theorem Keeps.modify {address : Nat} (keeps : before.Keeps after)
    (fresh : before[address]? = none) (change : Environment -> Environment) :
    before.Keeps (after.modify address change) := by
  intro other table found
  have different : address ≠ other := by
    rintro rfl
    rw [fresh] at found
    cases found
  rw [List.getElem?_modify_ne change after different]
  exact keeps other table found

end Store

namespace Process

variable {α β γ : Type}

/-- A process pauses as often as a run and has its outcome, and all tables of a store are
unchanged whenever it pauses and in the end.  While it pauses others may make new tables
but change none. -/
inductive Agrees (base : Store) : Process α -> Trial Failure α -> Prop where
  | done {store : Store} {outcome : Outcome Failure α} (keeps : base.Keeps store) :
      Agrees base (.done store outcome) (.done outcome)
  | paused {store : Store} {resume : Store -> Process α} {rest : Unit -> Trial Failure α}
      (keeps : base.Keeps store)
      (goesOn : forall later, store.Keeps later -> Agrees base (resume later) (rest ())) :
      Agrees base (.paused store resume) (.paused rest)

namespace Agrees

variable {base inside : Store} {process : Process α} {trial : Trial Failure α}

/-- Going on from what has been kept, with a claim about an earlier store. -/
theorem andThen (agrees : Agrees inside process trial) (within : base.Keeps inside)
    {next : α -> Store -> Process β} {after : α -> Trial Failure β}
    (goesOn : forall value store, inside.Keeps store ->
      Agrees base (next value store) (after value)) :
    Agrees base (process.andThen next) (trial.andThen after) := by
  induction agrees with
  | @done store outcome keeps =>
      cases outcome with
      | success value => exact goesOn value store keeps
      | failure reason => exact .done (within.trans keeps)
      | fault cause => exact .done (within.trans keeps)
  | paused keeps _ inductionHypothesis =>
      exact .paused (within.trans keeps) inductionHypothesis

theorem mono (agrees : Agrees inside process trial) (within : base.Keeps inside) :
    Agrees base process trial := by
  induction agrees with
  | done keeps => exact .done (within.trans keeps)
  | paused keeps _ inductionHypothesis =>
      exact .paused (within.trans keeps) inductionHypothesis

/-- If nobody else uses the store, the outcome is that of the run. -/
theorem complete (agrees : Agrees base process trial) :
    base.Keeps process.complete.1 ∧ process.complete.2 = trial.value := by
  induction agrees with
  | done keeps => exact ⟨keeps, rfl⟩
  | @paused store _ _ _ _ inductionHypothesis => exact inductionHypothesis store (.refl store)

end Agrees

theorem andThen_andThen (process : Process α) (next : α -> Store -> Process β)
    (last : β -> Store -> Process γ) :
    (process.andThen next).andThen last =
      process.andThen fun value store => (next value store).andThen last := by
  induction process with
  | done store outcome => cases outcome <;> rfl
  | paused store resume inductionHypothesis =>
      exact congrArg (Process.paused store) (funext inductionHypothesis)

end Process

namespace Stored

open Process

variable {α β : Type} {address : Nat} {environment : Environment}

/-- Where a table holds an environment, a computation agrees with a run. -/
def Follows (address : Nat) (environment : Environment) (stored : Stored α)
    (trial : Trial Failure α) : Prop :=
  forall store : Store, store[address]? = some environment -> (stored store).Agrees store trial

namespace Follows

variable {stored : Stored α} {trial : Trial Failure α}

theorem ofOutcome (outcome : Outcome Failure α) :
    Follows address environment (Stored.ofOutcome outcome) (Trial.ofOutcome outcome) :=
  fun store _ => .done (.refl store)

theorem andThen (follows : Follows address environment stored trial)
    {next : α -> Stored β} {after : α -> Trial Failure β}
    (goesOn : forall value, Follows address environment (next value) (after value)) :
    Follows address environment (stored.andThen next) (trial.andThen after) := by
  intro store found
  refine (follows store found).andThen (.refl store) fun value later keeps => ?_
  exact (goesOn value later (keeps address environment found)).mono keeps

theorem map (follows : Follows address environment stored trial) (change : α -> β) :
    Follows address environment (stored.map change) (trial.map change) :=
  follows.andThen fun value => ofOutcome (.success (change value))

theorem afterPause {rest : Unit -> Trial Failure α}
    (follows : Follows address environment stored (rest ())) :
    Follows address environment (Stored.afterPause stored) (Trial.afterPause rest) := by
  intro store found
  refine .paused (.refl store) fun later keeps => ?_
  exact (follows later (keeps address environment found)).mono keeps

theorem traverse {step : α -> Stored β} {plain : α -> Trial Failure β}
    (each : forall item, Follows address environment (step item) (plain item)) (items : List α) :
    Follows address environment (Stored.traverse step items) (Trial.traverse plain items) := by
  have goesOn : forall found : List β, Follows address environment
      (Stored.traverseFrom step found items) (Trial.traverseFrom plain found items) := by
    induction items with
    | nil => exact fun found => ofOutcome (.success found.reverse)
    | cons item rest inductionHypothesis =>
        exact fun found => (each item).andThen fun value => inductionHypothesis (value :: found)
  exact goesOn []

/-- Reading the table changes nothing and gives the environment. -/
theorem read {next : Environment -> Stored β} {trial : Trial Failure β}
    (follows : Follows address environment (next environment) trial) :
    Follows address environment ((Stored.read address).andThen next) trial := by
  intro store found
  have reads : (Stored.read address).andThen next store = next environment store := by
    simp only [Stored.andThen, Stored.read, Process.andThen, found, Option.getD_some]
  rw [reads]
  exact follows store found

end Follows

/-!
## The table of a body
-/

/-- The table of a body holds a scope and was not there before. -/
structure Holds (store : Store) (address : Nat) (scope : Environment) (base : Store) : Prop where
  keeps : base.Keeps store
  fresh : base[address]? = none
  found : store[address]? = some scope

namespace Holds

variable {store base : Store} {scope : Environment}

theorem later (holds : Holds store address scope base) {later : Store}
    (keeps : store.Keeps later) : Holds later address scope base :=
  ⟨holds.keeps.trans keeps, holds.fresh, keeps address scope holds.found⟩

theorem modify (holds : Holds store address scope base) (change : Environment -> Environment) :
    Holds (store.modify address change) address (change scope) base := by
  refine ⟨holds.keeps.modify holds.fresh change, holds.fresh, ?_⟩
  rw [List.getElem?_modify_eq, holds.found]
  rfl

/-- The copy of a table holds the same. -/
theorem copy (found : store[address]? = some environment) :
    Holds (store ++ [store[address]?.getD []]) store.length environment store := by
  refine ⟨Store.keeps_append store _, List.getElem?_eq_none_iff.mpr (Nat.le_refl _), ?_⟩
  rw [found, List.getElem?_append_right (Nat.le_refl _), Nat.sub_self]
  rfl

end Holds

/-- What is done with a copy of the table. -/
theorem copy_follows {next : Nat -> Stored α} {trial : Trial Failure α}
    (agrees : forall {scope : Nat} {store base : Store}, Holds store scope environment base ->
      (next scope store).Agrees base trial) :
    Follows address environment ((copy address).andThen next) trial :=
  fun _ found => agrees (.copy found)

/-- An evaluator on tables agrees with one on environments. -/
def Refines (stored : Stored.Evaluator) (plain : Evaluation.Evaluator) : Prop :=
  forall (address : Nat) (environment : Environment) (node : Node),
    Follows address environment (stored address node) (plain environment node)

section Rules

variable {stored : Stored.Evaluator} {plain : Evaluation.Evaluator}
  (refines : Refines stored plain)

include refines

theorem number_follows (node : Node) :
    Follows address environment (number stored address node)
      (Evaluation.number plain environment node) :=
  (refines address environment node).andThen fun value => .ofOutcome value.expectNumber

theorem elements_follows (node : Node) :
    Follows address environment (elements stored address node)
      (Evaluation.elements plain environment node) :=
  (refines address environment node).andThen fun value => .ofOutcome value.expectSequence

theorem numbers_follows (nodes : List Node) :
    Follows address environment (numbers stored address nodes)
      (Evaluation.numbers plain environment nodes) :=
  .traverse (number_follows refines) nodes

theorem baseAndRest_follows (nodes : List Node) :
    Follows address environment (baseAndRest stored address nodes)
      (Evaluation.baseAndRest plain environment nodes) := by
  cases nodes with
  | nil => exact .ofOutcome _
  | cons base rest =>
      exact (number_follows refines base).andThen fun _ => (numbers_follows refines rest).map _

theorem operation_follows (operator : Operator) (operands : List Node) :
    Follows address environment (operation stored address operator operands)
      (Evaluation.operation plain environment operator operands) := by
  cases operator with
  | plus => exact (numbers_follows refines operands).map _
  | times => exact (numbers_follows refines operands).map _
  | minus => exact (baseAndRest_follows refines operands).map _
  | power => exact (baseAndRest_follows refines operands).map _
  | _ =>
      refine (baseAndRest_follows refines operands).andThen fun (dividend, divisors) => ?_
      dsimp only
      split
      · exact .ofOutcome _
      · exact .ofOutcome _

theorem range_follows (start stop : Node) :
    Follows address environment (range stored address start stop)
      (Evaluation.range plain environment start stop) := by
  refine (number_follows refines start).andThen fun first => ?_
  refine (number_follows refines stop).andThen fun last => ?_
  split
  · exact .ofOutcome _
  · exact .ofOutcome _

/-- The parameter is written to the table of the body only.  The induction is on the
elements; the body begins with that table in its store and so leaves it alone. -/
theorem mapElements_agrees (function : Node) {address : Nat} {scope : Environment}
    {store base : Store} (holds : Holds store address scope base) (found elements : List Single) :
    (mapElements stored function address found elements store).Agrees base
      (Evaluation.mapElements plain function scope found elements) := by
  induction elements generalizing scope store found with
  | nil => exact .done holds.keeps
  | cons element rest inductionHypothesis =>
      refine .paused holds.keeps fun later keeps => ?_
      have stands := holds.later keeps
      cases mapperParts function with
      | error fault =>
          exact .done stands.keeps
      | ok both =>
          rcases both with ⟨parameter, body⟩
          have bound := stands.modify fun table => assign table parameter (.number element)
          refine (number_follows refines body _ bound.found).andThen bound.keeps ?_
          exact fun value after kept => inductionHypothesis (bound.later kept) (value :: found)

theorem reduceElements_agrees (function : Node) {address : Nat} {scope : Environment}
    {store base : Store} (holds : Holds store address scope base) (accumulator : Single)
    (elements : List Single) :
    (reduceElements stored function address accumulator elements store).Agrees base
      (Evaluation.reduceElements plain function scope accumulator elements) := by
  induction elements generalizing scope store accumulator with
  | nil => exact .done holds.keeps
  | cons element rest inductionHypothesis =>
      refine .paused holds.keeps fun later keeps => ?_
      have stands := holds.later keeps
      cases reducerParts function with
      | error fault =>
          exact .done stands.keeps
      | ok all =>
          rcases all with ⟨first, second, body⟩
          have bound := (stands.modify fun table => assign table first (.number accumulator)).modify
            fun table => assign table second (.number element)
          refine (number_follows refines body _ bound.found).andThen bound.keeps ?_
          exact fun value after kept => inductionHypothesis (bound.later kept) value

theorem rule_follows (node : Node) :
    Follows address environment (rule stored address node)
      (Evaluation.rule plain environment node) := by
  cases node with
  | number value => exact .ofOutcome _
  | name text =>
      refine .read ?_
      rw [Evaluation.rule]
      cases environment.find? text with
      | none => exact .ofOutcome _
      | some bound =>
          cases bound with
          | number value => exact .ofOutcome _
          | _ => exact refines address environment _
  | operation operator operands => exact operation_follows refines operator operands
  | range start stop => exact range_follows refines start stop
  | sequence nodes => exact (numbers_follows refines nodes).map _
  | map source function =>
      refine (elements_follows refines source).andThen fun elements => ?_
      refine copy_follows fun holds => ?_
      exact (mapElements_agrees refines function holds [] elements).andThen (.refl _)
        fun _ _ keeps => .done keeps
  | reduce source primer function =>
      refine (elements_follows refines source).andThen fun elements => ?_
      refine (number_follows refines primer).andThen fun primer => ?_
      refine copy_follows fun holds => ?_
      exact (reduceElements_agrees refines function holds primer elements).andThen (.refl _)
        fun _ _ keeps => .done keeps
  | _ => exact .ofOutcome _

end Rules

theorem refines_value (depth : Nat) : Refines (value depth) (Evaluation.value depth) := by
  induction depth with
  | zero => exact fun _ _ _ => .ofOutcome _
  | succ depth inductionHypothesis =>
      exact fun _ _ node => .afterPause (rule_follows inductionHypothesis node)

theorem display_follows (depth : Nat) (node : Node) :
    Follows address environment (display depth address node)
      (Evaluation.display depth environment node) := by
  induction depth generalizing node with
  | zero => exact .ofOutcome _
  | succ depth inductionHypothesis =>
      cases node with
      | number value => exact .ofOutcome _
      | name text =>
          refine .read ?_
          rw [Evaluation.display]
          cases environment.find? text with
          | none => exact .ofOutcome _
          | some bound => exact inductionHypothesis bound
      | sequence nodes => exact (Follows.traverse inductionHypothesis nodes).map _
      | _ => exact (refines_value depth _ _ _).map _

/-- Evaluated alone, an expression has its value, and every table that was there when its
evaluation began is unchanged: neither its own body nor that of any map or reduce inside
it has written to the bindings around it. -/
theorem value_complete (depth : Nat) (node : Node) {store : Store}
    (found : store[address]? = some environment) :
    store.Keeps (value depth address node store).complete.1 ∧
      (value depth address node store).complete.2 =
        (Evaluation.value depth environment node).value :=
  (refines_value depth address environment node store found).complete

/-- The parameter has the name of a variable, which keeps its value. -/
example :
    let table := [(['x'], Node.number (Floating.ofInt 7))]
    let elements := [Floating.ofInt 1, Floating.ofInt 2]
    let mapped := value 3 0 (.map (Value.toNode (.sequence elements))
      (.mapper (.name ['x']) (.name ['x'])))
    (mapped [table]).complete =
      ([table, [(['x'], .number (Floating.ofInt 2))]], .success (.sequence elements)) := by
  rfl

end Stored

/-!
## The table of a program
-/

namespace Process

/-- The table that a process works on holds the environment of an activity, whenever both
are suspended and in the end, and no other table that was there is changed.  While they
are suspended others may make new tables but change none. -/
inductive Shows (base : Store) (address : Nat) {α : Type} :
    Process α -> Activity α -> Prop where
  | finished {store : Store} {environment : Environment} {outcome : Outcome Failure α}
      (others : base.KeepsOthers address store) (found : store[address]? = some environment) :
      Shows base address (.done store outcome) (.finished environment outcome)
  | suspended {store : Store} {environment : Environment} {resume : Store -> Process α}
      {rest : Environment -> Activity α} (others : base.KeepsOthers address store)
      (found : store[address]? = some environment)
      (goesOn : forall later, store.Keeps later ->
        Shows base address (resume later) (rest environment)) :
      Shows base address (.paused store resume) (.suspended environment rest)

variable {α β : Type} {base store : Store} {address : Nat} {environment : Environment}

/-- An expression leaves its table alone, so it is seen as it was. -/
theorem Agrees.shows {process : Process α} {trial : Trial Failure α}
    (agrees : Agrees store process trial) (others : base.KeepsOthers address store)
    (found : store[address]? = some environment) {next : α -> Store -> Process β}
    {after : Environment -> α -> Activity β}
    (goesOn : forall value later, store.Keeps later ->
      Shows base address (next value later) (after environment value)) :
    Shows base address (process.andThen next) (Activity.follow environment after trial) := by
  induction agrees with
  | @done final outcome keeps =>
      cases outcome with
      | success value => exact goesOn value final keeps
      | failure reason => exact .finished (others.later keeps) (keeps _ _ found)
      | fault cause => exact .finished (others.later keeps) (keeps _ _ found)
  | paused keeps _ inductionHypothesis =>
      exact .suspended (others.later keeps) (keeps _ _ found) inductionHypothesis

/-- If nobody else uses the store, the table holds what the activity leaves. -/
theorem Shows.complete {process : Process α} {activity : Activity α}
    (shows : Shows base address process activity) :
    base.KeepsOthers address process.complete.1 ∧
      process.complete.1[address]? = some activity.complete.1 ∧
      process.complete.2 = activity.complete.2 := by
  induction shows with
  | finished others found => exact ⟨others, found, rfl⟩
  | @suspended store _ _ _ _ _ _ inductionHypothesis =>
      exact inductionHypothesis store (.refl store)

end Process

namespace Stored

open Process

variable {α : Type} {base store : Store} {address : Nat} {environment : Environment}

/-- A declaration writes to its own table and nothing else does. -/
theorem statement_shows (depth : Nat) (node : Node)
    (others : base.KeepsOthers address store) (found : store[address]? = some environment)
    {next : Environment -> Printed -> Activity α} {rest : Printed -> Store -> Process α}
    (goesOn : forall item later bound, base.KeepsOthers address later ->
      later[address]? = some bound -> Shows base address (rest item later) (next bound item)) :
    Shows base address ((statement depth address node store).andThen rest)
      (Evaluation.statement depth environment next node) := by
  cases node with
  | declare name expression =>
      have agrees := refines_value depth address environment expression store found
      rw [statement, andThen, andThen_andThen]
      refine agrees.shows others found fun value later keeps => ?_
      have stands := keeps address environment found
      cases boundName name with
      | error fault => exact .finished (others.later keeps) stands
      | ok name =>
          refine goesOn _ _ _ ((others.later keeps).modify _) ?_
          rw [List.getElem?_modify_eq, stands]
          rfl
  | print content =>
      rw [statement, Evaluation.statement]
      cases literal content with
      | ok printed => exact goesOn _ _ _ others found
      | error fault => exact .finished others found
  | out expression =>
      have agrees := display_follows depth expression store found
      rw [statement, map, andThen, andThen_andThen]
      refine agrees.shows others found fun text later keeps => ?_
      exact goesOn _ _ _ (others.later keeps) (keeps address environment found)
  | _ => exact .finished others found

/-- A program on the table at an address is seen there as the activity that has the
environment to itself.  The induction is on the statements; each begins with what those
before it have left in the table. -/
theorem program_shows (depth : Nat) (nodes : List Node) (printed : List Printed)
    (others : base.KeepsOthers address store) (found : store[address]? = some environment) :
    Shows base address (program depth address printed nodes store)
      (Evaluation.program depth printed nodes environment) := by
  induction nodes generalizing printed store environment with
  | nil => exact .finished others found
  | cons node nodes inductionHypothesis =>
      exact statement_shows depth node others found fun item later bound kept stands =>
        inductionHypothesis (printed ++ [item]) kept stands

theorem program_complete (depth : Nat) (nodes : List Node)
    (found : store[address]? = some environment) :
    store.KeepsOthers address (program depth address [] nodes store).complete.1 ∧
      (program depth address [] nodes store).complete.1[address]? =
        some (Evaluation.program depth [] nodes environment).complete.1 ∧
      (program depth address [] nodes store).complete.2 =
        (Evaluation.program depth [] nodes environment).complete.2 :=
  (program_shows depth nodes [] (.refl address store) found).complete

end Stored

end SequenceCalculator
