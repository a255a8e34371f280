import SequenceCalculator.Proofs.Evaluation.Runs

namespace SequenceCalculator

/-!
# One scope for all elements

A map and a reduce keep one scope and bind their parameters in it anew for each
element.  What an earlier element has left there is always overwritten before it
could be seen, so each element is treated as if it had a scope of its own, made
from the bindings around the whole expression.

The runs themselves are equal, with all their pauses.  What they come to is read off
from that.  The evaluator for the body is arbitrary.
-/

open Number

namespace Environment

theorem insert_insert (environment : Environment) (name : Text) (old new : Node) :
    (environment.insert name old).insert name new = environment.insert name new := by
  induction environment with
  | nil => simp only [insert, if_true]
  | cons binding rest inductionHypothesis =>
      rcases binding with ⟨bound, node⟩
      simp only [insert]
      by_cases same : bound = name
      · simp only [if_pos same, insert, if_true]
      · simp only [if_neg same, insert, inductionHypothesis]

/-- A name that is bound already keeps its place, so it may be bound anew before
or after another one. -/
theorem insert_comm (environment : Environment) {name other : Text} {old : Node}
    (isBound : environment.find? name = some old) (different : name ≠ other) (new another : Node) :
    (environment.insert other another).insert name new =
      (environment.insert name new).insert other another := by
  induction environment with
  | nil => cases isBound
  | cons binding rest inductionHypothesis =>
      rcases binding with ⟨bound, node⟩
      by_cases isName : bound = name
      · subst bound
        simp only [insert, if_neg different, if_true]
      · rw [find?, if_neg isName] at isBound
        by_cases isOther : bound = other
        · subst bound
          simp only [insert, if_neg isName, if_true]
        · simp only [insert, if_neg isName, if_neg isOther, inductionHypothesis isBound]

/-- Two names that are bound anew in the same order: the second wins when they are
the same. -/
theorem insert_pair (environment : Environment) (first second : Text)
    (oldFirst oldSecond newFirst newSecond : Node) :
    (((environment.insert first oldFirst).insert second oldSecond).insert first
        newFirst).insert second newSecond =
      (environment.insert first newFirst).insert second newSecond := by
  by_cases same : first = second
  · subst second
    simp only [insert_insert]
  · rw [insert_comm _ (find?_insert_self environment first oldFirst) same, insert_insert,
      insert_insert]

end Environment

namespace Trial

variable {ε α β : Type}

/-- Runs a step on every item in order, each from what the one before has given. -/
def fold (step : β -> α -> Trial ε β) : β -> List α -> Trial ε β
  | given, [] => succeed given
  | given, item :: items => (step given item).andThen fun next => fold step next items

/-- Only the step matters to a fold, its pauses included. -/
theorem fold_congr {first second : β -> α -> Trial ε β}
    (agree : forall given item, first given item = second given item) (given : β)
    (items : List α) : fold first given items = fold second given items := by
  have same : first = second := funext fun given => funext fun item => agree given item
  rw [same]

end Trial

namespace Evaluation

section Binding

variable (environment : Environment)

theorem assign_assign (name : Option Text) (old new : Node) :
    assign (assign environment name old) name new = assign environment name new := by
  cases name with
  | none => rfl
  | some name => exact environment.insert_insert name old new

/-- The same for two positions that are bound in turn. -/
theorem assign_pair (first second : Option Text)
    (oldFirst oldSecond newFirst newSecond : Node) :
    assign (assign (assign (assign environment first oldFirst) second oldSecond) first newFirst)
        second newSecond =
      assign (assign environment first newFirst) second newSecond := by
  cases first with
  | none => exact assign_assign environment second oldSecond newSecond
  | some first =>
      cases second with
      | none => exact environment.insert_insert first oldFirst newFirst
      | some second => exact environment.insert_pair first second _ _ _ _

end Binding

variable (inner : Evaluator) (environment : Environment)

/-- The body of a map at one element, in a scope of its own. -/
def atElement (parameter : Option Text) (body : Node) (element : Single) :
    Trial Failure Single :=
  Trial.afterPause fun _ => number inner (assign environment parameter (.number element)) body

/-- The body of a reduce at one element, in a scope of its own. -/
def atStep (first second : Option Text) (body : Node) (accumulator element : Single) :
    Trial Failure Single :=
  Trial.afterPause fun _ =>
    number inner (assign (assign environment first (.number accumulator)) second
      (.number element)) body

section Runs

variable {function body : Node}

/-- What an earlier element has left in the scope is overwritten. -/
theorem atElement_assign (parameter : Option Text) (old body : Node) :
    atElement inner (assign environment parameter old) parameter body =
      atElement inner environment parameter body := by
  funext element
  rw [atElement, atElement, assign_assign]

theorem atStep_assign (first second : Option Text) (oldFirst oldSecond body : Node) :
    atStep inner (assign (assign environment first oldFirst) second oldSecond) first second body =
      atStep inner environment first second body := by
  funext accumulator element
  rw [atStep, atStep, assign_pair]

/-- The scope that is kept from element to element might as well be made anew for
each of them. -/
theorem mapElements_eq_traverseFrom {parameter : Option Text}
    (parts : mapperParts function = .ok (parameter, body)) (found source : List Single) :
    mapElements inner function environment found source =
      Trial.traverseFrom (atElement inner environment parameter body) found source := by
  induction source generalizing environment found with
  | nil => rfl
  | cons element rest inductionHypothesis =>
      simp only [mapElements, parts, inductionHypothesis, atElement_assign]
      rfl

/-- The same for a fold. -/
theorem reduceElements_eq_fold {first second : Option Text}
    (parts : reducerParts function = .ok (first, second, body)) (accumulator : Single)
    (source : List Single) :
    reduceElements inner function environment accumulator source =
      Trial.fold (atStep inner environment first second body) accumulator source := by
  induction source generalizing environment accumulator with
  | nil => rfl
  | cons element rest inductionHypothesis =>
      simp only [reduceElements, parts, inductionHypothesis, atStep_assign]
      rfl

end Runs

/-- Folds the body of a function over elements, each in a scope of its own. -/
def folded (inner : Evaluator) (environment : Environment) (first second : Text) (body : Node) :
    Single -> List Single -> Outcome Failure Single
  | accumulator, [] => .success accumulator
  | accumulator, element :: rest =>
      (number inner ((environment.insert first (.number accumulator)).insert second
        (.number element)) body).value.bind fun next =>
          folded inner environment first second body next rest

theorem value_mapElements (parameter : Text) (body : Node) (found source : List Single) :
    (mapElements inner (.mapper (.name parameter) body) environment found source).value =
      (Outcome.traverse (fun element =>
        (number inner (environment.insert parameter (.number element)) body).value)
        source).map (found.reverse ++ ·) := by
  rw [mapElements_eq_traverseFrom inner environment rfl, Trial.value_traverseFrom]
  rfl

theorem value_reduceElements (first second : Text) (body : Node) (accumulator : Single)
    (source : List Single) :
    (reduceElements inner (.reducer (.name first) (.name second) body) environment accumulator
      source).value = folded inner environment first second body accumulator source := by
  rw [reduceElements_eq_fold inner environment rfl]
  induction source generalizing accumulator with
  | nil => rfl
  | cons element rest inductionHypothesis =>
      simp only [Trial.fold, Trial.value_andThen, inductionHypothesis]
      rfl

end Evaluation

end SequenceCalculator
