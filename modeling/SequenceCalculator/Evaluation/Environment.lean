import SequenceCalculator.Tree.Node

namespace SequenceCalculator

/-!
Environments: the bindings of names, in the order in which the names were
first bound.
-/

/-- The bindings of names. -/
abbrev Environment := List (Text × Node)

namespace Environment

/-- The binding of a name. -/
def find? (environment : Environment) (name : Text) : Option Node :=
  match environment with
  | [] => none
  | (bound, node) :: rest => if bound = name then some node else find? rest name

/-- The bindings with one more, or with one replaced in its place. -/
def insert (environment : Environment) (name : Text) (node : Node) : Environment :=
  match environment with
  | [] => [(name, node)]
  | (bound, old) :: rest =>
      if bound = name then (name, node) :: rest
      else (bound, old) :: insert rest name node

/-- The bound names, in the order in which they were first bound. -/
def names (environment : Environment) : List Text :=
  environment.map Prod.fst

/-- Looking up the name just bound gives its binding. -/
theorem find?_insert_self (environment : Environment) (name : Text) (node : Node) :
    (environment.insert name node).find? name = some node := by
  induction environment with
  | nil => simp [insert, find?]
  | cons binding rest inductionHypothesis =>
      simp only [insert]
      by_cases same : binding.1 = name
      · simp [same, find?]
      · simp [same, find?, inductionHypothesis]

/-- A binding leaves all other names as they were. -/
theorem find?_insert_of_ne (environment : Environment) {name other : Text}
    (node : Node) (different : other ≠ name) :
    (environment.insert name node).find? other = environment.find? other := by
  induction environment with
  | nil => simp [insert, find?, Ne.symm different]
  | cons binding rest inductionHypothesis =>
      simp only [insert]
      by_cases same : binding.1 = name
      · simp [same, find?, Ne.symm different]
      · simp [same, find?, inductionHypothesis]

end Environment

end SequenceCalculator
