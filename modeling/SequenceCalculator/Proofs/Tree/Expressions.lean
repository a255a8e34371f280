import SequenceCalculator.Proofs.Tree.Normalization

namespace SequenceCalculator
namespace Node

/-!
# Trees of expressions

An expression has functions only where they are applied, and they bind names.  Its
operations may have any number of operands.  Normalization accepts every expression.
Where an operation of a single operand is at the top, the whole becomes the normal form
of that operand.  Otherwise the expression keeps its shape, and the expressions inside
are normalized one by one.
-/

open Number

/-- The trees that are expressions. -/
inductive IsExpression : Node -> Prop where
  | number (value : Single) : IsExpression (.number value)
  | name (text : Text) : IsExpression (.name text)
  | operation (operator : Operator) {operands : List Node}
      (each : forall operand, operand ∈ operands -> IsExpression operand) :
      IsExpression (.operation operator operands)
  | range {start stop : Node} (first : IsExpression start) (last : IsExpression stop) :
      IsExpression (.range start stop)
  | sequence {elements : List Node}
      (each : forall element, element ∈ elements -> IsExpression element) :
      IsExpression (.sequence elements)
  | map {source body : Node} (takes : IsExpression source) (parameter : Text)
      (gives : IsExpression body) : IsExpression (.map source (.mapper (.name parameter) body))
  | reduce {source primer body : Node} (takes : IsExpression source)
      (starts : IsExpression primer) (first second : Text) (gives : IsExpression body) :
      IsExpression (.reduce source primer (.reducer (.name first) (.name second) body))

/-- Two expressions of one shape, where those inside are related one by one. -/
inductive Alike (related : Node -> Node -> Prop) : Node -> Node -> Prop where
  | number (value : Single) : Alike related (.number value) (.number value)
  | name (text : Text) : Alike related (.name text) (.name text)
  | operation (operator : Operator) {operands others : List Node}
      (each : List.Forall₂ related operands others) :
      Alike related (.operation operator operands) (.operation operator others)
  | range {start stop otherStart otherStop : Node} (first : related start otherStart)
      (last : related stop otherStop) :
      Alike related (.range start stop) (.range otherStart otherStop)
  | sequence {elements others : List Node} (each : List.Forall₂ related elements others) :
      Alike related (.sequence elements) (.sequence others)
  | map {source body otherSource otherBody : Node} (takes : related source otherSource)
      (parameter : Text) (gives : related body otherBody) :
      Alike related (.map source (.mapper (.name parameter) body))
        (.map otherSource (.mapper (.name parameter) otherBody))
  | reduce {source primer body otherSource otherPrimer otherBody : Node}
      (takes : related source otherSource) (starts : related primer otherPrimer)
      (first second : Text) (gives : related body otherBody) :
      Alike related (.reduce source primer (.reducer (.name first) (.name second) body))
        (.reduce otherSource otherPrimer
          (.reducer (.name first) (.name second) otherBody))

/-- An expression of which another one is the normal form. -/
structure UnwrapsTo (node unwrapped : Node) : Prop where
  expression : node.IsExpression
  normalized : node.normalize = .ok unwrapped

/-- An expression is alike to itself, with expressions inside. -/
theorem IsExpression.alike {node : Node} (expression : node.IsExpression) :
    Alike (fun part other => part = other ∧ part.IsExpression) node node := by
  cases expression with
  | number value => exact .number value
  | name text => exact .name text
  | operation operator each =>
      exact .operation operator (List.forall₂_same.mpr fun part member => ⟨rfl, each part member⟩)
  | range first last => exact .range ⟨rfl, first⟩ ⟨rfl, last⟩
  | sequence each =>
      exact .sequence (List.forall₂_same.mpr fun part member => ⟨rfl, each part member⟩)
  | map takes parameter gives => exact .map ⟨rfl, takes⟩ parameter ⟨rfl, gives⟩
  | reduce takes starts first second gives =>
      exact .reduce ⟨rfl, takes⟩ ⟨rfl, starts⟩ first second ⟨rfl, gives⟩

section Several

variable {raws nodes : List Node}

theorem unwrapsTo_of_normalizeAll (normals : normalizeAll raws = .ok nodes)
    (each : forall raw, raw ∈ raws -> raw.IsExpression) : List.Forall₂ UnwrapsTo raws nodes := by
  have both := (List.forall₂_and_left (p := IsExpression) raws nodes).mpr
    ⟨each, normalizeAll_eq_ok_iff.mp normals⟩
  exact both.imp fun raw node isBoth => ⟨isBoth.1, isBoth.2⟩

theorem normalizeAll_two {first second : Node}
    (normals : normalizeAll [first, second] = .ok nodes) :
    ∃ one two, nodes = [one, two] ∧ first.normalize = .ok one ∧ second.normalize = .ok two := by
  rcases normalizeAll_eq_ok normals with ⟨one, others, rfl, isOne, rest⟩
  rcases normalizeAll_eq_ok rest with ⟨two, none, rfl, isTwo, last⟩
  cases last
  exact ⟨one, two, rfl, isOne, isTwo⟩

theorem normalizeAll_three {first second third : Node}
    (normals : normalizeAll [first, second, third] = .ok nodes) :
    ∃ one two three, nodes = [one, two, three] ∧ first.normalize = .ok one ∧
      second.normalize = .ok two ∧ third.normalize = .ok three := by
  rcases normalizeAll_eq_ok normals with ⟨one, others, rfl, isOne, rest⟩
  rcases normalizeAll_two rest with ⟨two, three, rfl, isTwo, isThree⟩
  exact ⟨one, two, three, rfl, isOne, isTwo, isThree⟩

end Several

section Functions

variable {body function : Node}

/-- A function keeps its parameters, which are names. -/
theorem normalize_mapper_eq_ok {parameter : Text}
    (normalized : (Node.mapper (.name parameter) body).normalize = .ok function) :
    ∃ unwrapped, function = .mapper (.name parameter) unwrapped ∧
      body.normalize = .ok unwrapped := by
  rcases normalize_eq_ok normalized with ⟨_, _, impossible, _⟩ | ⟨_, _, nodes, normals, rfl⟩
  · cases impossible
  · rcases normalizeAll_two normals with ⟨_, unwrapped, rfl, same, isBody⟩
    cases same
    exact ⟨unwrapped, rfl, isBody⟩

theorem normalize_reducer_eq_ok {first second : Text}
    (normalized : (Node.reducer (.name first) (.name second) body).normalize = .ok function) :
    ∃ unwrapped, function = .reducer (.name first) (.name second) unwrapped ∧
      body.normalize = .ok unwrapped := by
  rcases normalize_eq_ok normalized with ⟨_, _, impossible, _⟩ | ⟨_, _, nodes, normals, rfl⟩
  · cases impossible
  · rcases normalizeAll_three normals with ⟨_, _, unwrapped, rfl, same, other, isBody⟩
    cases same
    cases other
    exact ⟨unwrapped, rfl, isBody⟩

end Functions

section Expressions

variable {node unwrapped : Node}

/-- What normalization does at the top of an expression. -/
theorem UnwrapsTo.cases (unwraps : UnwrapsTo node unwrapped) :
    (∃ operator operand, node = .operation operator [operand] ∧ UnwrapsTo operand unwrapped) ∨
      Alike UnwrapsTo node unwrapped := by
  rcases unwraps with ⟨expression, normalized⟩
  rcases normalize_eq_ok normalized with
    ⟨operator, operand, rfl, inside⟩ | ⟨_, _, nodes, normals, rfl⟩
  · cases expression with
    | operation _ each =>
        exact .inl ⟨operator, operand, rfl, each operand List.mem_cons_self, inside⟩
  refine .inr ?_
  cases expression with
  | number value => exact .number value
  | name text => exact .name text
  | operation operator each => exact .operation operator (unwrapsTo_of_normalizeAll normals each)
  | sequence each => exact .sequence (unwrapsTo_of_normalizeAll normals each)
  | range first last =>
      rcases normalizeAll_two normals with ⟨start, stop, rfl, isStart, isStop⟩
      exact .range ⟨first, isStart⟩ ⟨last, isStop⟩
  | map takes parameter gives =>
      rcases normalizeAll_two normals with ⟨source, function, rfl, isSource, isFunction⟩
      rcases normalize_mapper_eq_ok isFunction with ⟨body, rfl, isBody⟩
      exact .map ⟨takes, isSource⟩ parameter ⟨gives, isBody⟩
  | reduce takes starts first second gives =>
      rcases normalizeAll_three normals with
        ⟨source, primer, function, rfl, isSource, isPrimer, isFunction⟩
      rcases normalize_reducer_eq_ok isFunction with ⟨body, rfl, isBody⟩
      exact .reduce ⟨takes, isSource⟩ ⟨starts, isPrimer⟩ first second ⟨gives, isBody⟩

/-- Whatever is made of nodes that can be normalized can be normalized. -/
theorem exists_normalize (notForeign : forall value, node ≠ .foreign value)
    (each : forall part, part ∈ node.parts -> ∃ normal, part.normalize = .ok normal) :
    ∃ normal, node.normalize = .ok normal := by
  cases normalizes node with
  | @single operator operand isSingle same =>
      subst isSingle
      rw [same]
      exact each operand List.mem_cons_self
  | foreign isForeign _ => exact absurd isForeign (notForeign _)
  | rebuilt _ _ rebuilds =>
      rw [rebuilds]
      cases normals : normalizeAll node.parts with
      | ok nodes => exact ⟨_, rfl⟩
      | error cause =>
          rcases normalizeAll_eq_error normals with ⟨part, member, stops⟩
          rcases each part member with ⟨normal, isNormal⟩
          rw [stops] at isNormal
          cases isNormal

theorem IsExpression.exists_normalize (expression : node.IsExpression) :
    ∃ unwrapped, node.normalize = .ok unwrapped := by
  induction expression with
  | number value => exact ⟨_, rfl⟩
  | name text => exact ⟨_, rfl⟩
  | operation operator _ each => exact Node.exists_normalize (by simp) each
  | sequence _ each => exact Node.exists_normalize (by simp) each
  | range _ _ first last =>
      exact Node.exists_normalize (by simp) (by simp [parts, first, last])
  | map _ parameter _ takes gives =>
      have function : ∃ unwrapped, (Node.mapper (.name parameter) _).normalize = .ok unwrapped :=
        Node.exists_normalize (by simp) (by simpa [parts, Node.normalize] using gives)
      exact Node.exists_normalize (by simp) (by simp [parts, takes, function])
  | reduce _ _ first second _ takes starts gives =>
      have function : ∃ unwrapped,
          (Node.reducer (.name first) (.name second) _).normalize = .ok unwrapped :=
        Node.exists_normalize (by simp) (by simpa [parts, Node.normalize] using gives)
      exact Node.exists_normalize (by simp) (by simp [parts, takes, starts, function])

end Expressions

end Node
end SequenceCalculator
