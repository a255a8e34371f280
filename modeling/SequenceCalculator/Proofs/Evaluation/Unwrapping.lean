import SequenceCalculator.Proofs.Evaluation.Faults
import SequenceCalculator.Proofs.Evaluation.Results
import SequenceCalculator.Proofs.Number.Identities
import SequenceCalculator.Proofs.Tree.Expressions

namespace SequenceCalculator

/-!
# Normalized expressions have the same values

Normalization takes an operation of a single operand away, and with it the check that
the operand is a number and the arithmetic on that one number.  Where the operation has a
value, neither was needed.  The check was passed, and of one number every operator makes
that number again.  The exception is a sum of negative zero.

This goes on in every expression that is evaluated, so also in the bodies of functions,
in each scope that they are evaluated in.  Names lead out of the expression, to normal
forms, where there are no operations.
-/

open Number

namespace Evaluation

/-!
## Alike expressions

An expression that has a value has evaluated everything inside it, as far as it needed
to.  Another expression of the same shape has that value too, as soon as each of the
evaluations that were made is matched by one with the same value.
-/

section Alike

variable {first : Evaluator} (second : Evaluator) {environment : Environment}

theorem allNumbers_of_success {nodes : List Node} {found : List Single}
    (succeeds : (numbers first environment nodes).value = .success found) :
    AllNumbers first environment nodes := by
  intro node member
  rw [value_numbers] at succeeds
  rcases Outcome.exists_success_of_traverse succeeds member with ⟨number, isNumber⟩
  exact ⟨number, number_eq_success_iff.mp isNumber⟩

theorem numbers_of_alike {related : Node -> Node -> Prop} {nodes others : List Node}
    (each : List.Forall₂ related nodes others)
    (preserves : forall before node after other found, nodes = before ++ node :: after ->
      AllNumbers first environment before -> related node other ->
      (first environment node).value = .success found ->
      (second environment other).value = .success found) {found : List Single}
    (succeeds : (numbers first environment nodes).value = .success found) :
    (numbers second environment others).value = .success found := by
  have all := allNumbers_of_success succeeds
  rw [value_numbers] at succeeds ⊢
  refine Outcome.traverse_of_forall₂ each ?_ succeeds
  intro node other number member isRelated isNumber
  obtain ⟨before, after, rfl⟩ := List.append_of_mem member
  rw [number_eq_success_iff] at isNumber ⊢
  refine preserves before node after other _ rfl ?_ isRelated isNumber
  exact fun earlier isEarlier => all earlier (List.mem_append_left _ isEarlier)

theorem gathered_of_alike {parameter : Text} {body other : Node} {source values : List Single}
    (preserves : forall before element after found, source = before ++ element :: after ->
      (forall earlier, earlier ∈ before -> ∃ number,
        (first (environment.insert parameter (.number earlier)) body).value =
          .success (.number number)) ->
      (first (environment.insert parameter (.number element)) body).value = .success found ->
      (second (environment.insert parameter (.number element)) other).value = .success found)
    (gathers : Outcome.traverse (fun element =>
      (number first (environment.insert parameter (.number element)) body).value) source =
        .success values) :
    Outcome.traverse (fun element =>
      (number second (environment.insert parameter (.number element)) other).value) source =
        .success values := by
  refine Outcome.traverse_of_forall₂ (List.forall₂_same.mpr fun _ _ => rfl) ?_ gathers
  rintro element _ found member rfl isNumber
  obtain ⟨before, after, rfl⟩ := List.append_of_mem member
  rw [number_eq_success_iff] at isNumber ⊢
  refine preserves before element after _ rfl (fun earlier isEarlier => ?_) isNumber
  rcases Outcome.exists_success_of_traverse gathers (List.mem_append_left _ isEarlier) with
    ⟨number, isNumber⟩
  exact ⟨number, number_eq_success_iff.mp isNumber⟩

/-- The induction is on the elements, where those in front have been folded already. -/
theorem folded_of_alike {one two : Text} {body other : Node} {start : Single}
    {source : List Single}
    (preserves : forall before element after accumulator found,
      source = before ++ element :: after ->
      folded first environment one two body start before = .success accumulator ->
      (first ((environment.insert one (.number accumulator)).insert two (.number element))
        body).value = .success found ->
      (second ((environment.insert one (.number accumulator)).insert two (.number element))
        other).value = .success found) {found : Single}
    (folds : folded first environment one two body start source = .success found) :
    folded second environment one two other start source = .success found := by
  induction source generalizing start with
  | nil => exact folds
  | cons element rest inductionHypothesis =>
      rw [folded] at folds
      rcases Outcome.bind_eq_success folds with ⟨next, isNext, foldsRest⟩
      have head := preserves [] element rest start _ rfl rfl (number_eq_success_iff.mp isNext)
      rw [folded, number_eq_success_iff.mpr head, Outcome.bind_success]
      refine inductionHypothesis ?_ foldsRest
      rintro before later after accumulator found rfl foldsBefore
      refine preserves (element :: before) later after accumulator found rfl ?_
      rw [folded, isNext, Outcome.bind_success, foldsBefore]

theorem rule_of_alike {related : Node -> Node -> Prop} {node other : Node}
    (alike : Node.Alike related node other)
    (bindings : forall text bound found, environment.find? text = some bound ->
      (first environment bound).value = .success found ->
      (second environment bound).value = .success found)
    (preserves : forall scope part otherPart found, related part otherPart ->
      Demands first environment node scope part -> (first scope part).value = .success found ->
      (second scope otherPart).value = .success found) {found : Value}
    (evaluates : (rule first environment node).value = .success found) :
    (rule second environment other).value = .success found := by
  cases alike with
  | number value => exact evaluates
  | name text =>
      simp only [rule] at evaluates ⊢
      cases bound : environment.find? text with
      | none => rw [bound] at evaluates; cases evaluates
      | some node =>
          cases node with
          | number value => simpa only [bound] using evaluates
          | _ =>
              simp only [bound] at evaluates ⊢
              exact bindings text _ found bound evaluates
  | operation operator each =>
      rw [rule, value_operation] at evaluates ⊢
      rcases Outcome.bind_eq_success evaluates with ⟨numbers, areNumbers, combines⟩
      have others := numbers_of_alike second each (fun before node after other found
        split inFront isRelated => by
          subst split
          exact preserves _ _ _ _ isRelated (.operand inFront)) areNumbers
      rw [others, Outcome.bind_success, combines]
  | sequence each =>
      rw [rule, Trial.value_map] at evaluates ⊢
      rcases Outcome.map_eq_success evaluates with ⟨numbers, areNumbers, rfl⟩
      have others := numbers_of_alike second each (fun before node after other found
        split inFront isRelated => by
          subst split
          exact preserves _ _ _ _ isRelated (.element inFront)) areNumbers
      rw [others, Outcome.map_success]
  | range starts stops =>
      rw [rule, value_range] at evaluates ⊢
      rcases Outcome.bind_eq_success evaluates with ⟨start, isStart, later⟩
      rcases Outcome.bind_eq_success later with ⟨stop, isStop, between⟩
      rw [number_eq_success_iff] at isStart isStop
      have otherStart := preserves _ _ _ _ starts .start isStart
      have otherStop := preserves _ _ _ _ stops (.stop isStart) isStop
      rw [number_eq_success_iff.mpr otherStart, Outcome.bind_success,
        number_eq_success_iff.mpr otherStop, Outcome.bind_success, between]
  | map takes parameter gives =>
      rw [rule, Trial.value_andThen] at evaluates ⊢
      rcases Outcome.bind_eq_success evaluates with ⟨elements, isSource, later⟩
      rw [elements_eq_success_iff] at isSource
      rw [elements_eq_success_iff.mpr (preserves _ _ _ _ takes .mapSource isSource),
        Outcome.bind_success, Trial.value_map, value_mapElements]
      rw [Trial.value_map, value_mapElements] at later
      rcases Outcome.map_eq_success later with ⟨_, gave, rfl⟩
      rcases Outcome.map_eq_success gave with ⟨values, gathers, same⟩
      have others := gathered_of_alike second (fun before element after found split
        inFront => by
          subst split
          exact preserves _ _ _ _ gives (.mapBody isSource inFront)) gathers
      rw [others, Outcome.map_success, Outcome.map_success, same]
  | reduce takes starts one two gives =>
      rw [rule, Trial.value_andThen] at evaluates ⊢
      rcases Outcome.bind_eq_success evaluates with ⟨elements, isSource, later⟩
      rw [elements_eq_success_iff] at isSource
      rw [elements_eq_success_iff.mpr (preserves _ _ _ _ takes .reduceSource isSource),
        Outcome.bind_success, Trial.value_andThen]
      rw [Trial.value_andThen] at later
      rcases Outcome.bind_eq_success later with ⟨start, isStart, last⟩
      rw [number_eq_success_iff] at isStart
      rw [number_eq_success_iff.mpr (preserves _ _ _ _ starts (.primer isSource) isStart),
        Outcome.bind_success, Trial.value_map, value_reduceElements]
      rw [Trial.value_map, value_reduceElements] at last
      rcases Outcome.map_eq_success last with ⟨number, folds, rfl⟩
      have others := folded_of_alike second (fun before element after accumulator
        found split foldsBefore => by
          subst split
          exact preserves _ _ _ _ gives (.reduceBody isSource isStart foldsBefore)) folds
      rw [others, Outcome.map_success]

end Alike

/-!
## Values that were found with little room
-/

theorem isExpression_of_isNormal {node : Node} (normal : node.IsNormal) : node.IsExpression := by
  rcases (Node.isNormal_iff node).mp normal with ⟨number, rfl⟩ | ⟨numbers, rfl⟩
  · exact .number number
  · refine .sequence fun element member => ?_
    rcases List.mem_map.mp member with ⟨number, _, rfl⟩
    exact .number number

/-- A value that was found is found with more room as well. -/
theorem value_of_le {depth more : Nat} (enough : depth ≤ more) {environment : Environment}
    (normal : environment.IsNormal) {node : Node} (expression : node.IsExpression)
    {found : Value} (evaluates : (value depth environment node).value = .success found) :
    (value more environment node).value = .success found := by
  induction depth generalizing more environment node found with
  | zero => cases evaluates
  | succ depth inductionHypothesis =>
      obtain ⟨fewer, rfl⟩ : ∃ fewer, more = fewer + 1 := ⟨more - 1, by omega⟩
      have enough := Nat.le_of_succ_le_succ enough
      rw [value, Trial.value_afterPause] at evaluates ⊢
      refine rule_of_alike _ expression.alike ?_ ?_ evaluates
      · intro text bound found isBound
        exact inductionHypothesis enough normal
          (isExpression_of_isNormal (normal text bound isBound))
      · rintro scope part _ found ⟨rfl, isExpression⟩ demands
        exact inductionHypothesis enough (demands.isNormal_scope normal) isExpression

theorem result_of_value {depth : Nat} {environment : Environment} (normal : environment.IsNormal)
    {node : Node} (expression : node.IsExpression) {found : Value}
    (evaluates : (value depth environment node).value = .success found) :
    result environment node = .success found := by
  rw [← value_eq_result normal (Nat.le_max_right depth (node.height + 2))]
  exact value_of_le (Nat.le_max_left _ _) normal expression evaluates

theorem AllNumbers.settled {depth : Nat} {environment : Environment} {nodes : List Node}
    (all : AllNumbers (value depth) environment nodes) (normal : environment.IsNormal)
    (expressions : forall node, node ∈ nodes -> node.IsExpression) :
    AllNumbers settled environment nodes := by
  intro node member
  rcases all node member with ⟨number, isNumber⟩
  exact ⟨number, result_of_value normal (expressions node member) isNumber⟩

/-- What an evaluation with little room comes to, the settled one comes to as well. -/
theorem Demands.settled {depth : Nat} {environment scope : Environment} {node part : Node}
    (demands : Demands (value depth) environment node scope part)
    (normal : environment.IsNormal) (expression : node.IsExpression) :
    Demands settled environment node scope part := by
  cases demands with
  | binding found composed => exact .binding found composed
  | @operand operator before after part areNumbers =>
      cases expression with
      | operation _ each =>
          exact .operand (areNumbers.settled normal fun node member =>
            each node (List.mem_append_left _ member))
  | @element before after part areNumbers =>
      cases expression with
      | sequence each =>
          exact .element (areNumbers.settled normal fun node member =>
            each node (List.mem_append_left _ member))
  | start => exact .start
  | stop starts =>
      cases expression with
      | range first last => exact .stop (result_of_value normal first starts)
  | mapSource => exact .mapSource
  | mapBody takes gave =>
      cases expression with
      | map isSource _ isBody =>
          refine .mapBody (result_of_value normal isSource takes) fun other member => ?_
          rcases gave other member with ⟨number, isNumber⟩
          exact ⟨number, result_of_value (normal.insert_number _ other) isBody isNumber⟩
  | reduceSource => exact .reduceSource
  | primer takes =>
      cases expression with
      | reduce isSource _ _ _ _ => exact .primer (result_of_value normal isSource takes)
  | reduceBody takes starts folds =>
      cases expression with
      | reduce isSource isPrimer _ _ isBody =>
          refine .reduceBody (result_of_value normal isSource takes)
            (result_of_value normal isPrimer starts) ?_
          refine folded_of_alike _ (fun _ element _ accumulator _ _ _ evaluates => ?_) folds
          exact result_of_value ((normal.insert_number _ accumulator).insert_number _ element)
            isBody evaluates

/-!
## Unwrapped expressions
-/

/-- The evaluation of an expression comes to a sum of a single operand, which is
negative zero. -/
def MeetsNegativeZero (environment : Environment) (node : Node) : Prop :=
  ∃ scope operand, Reaches settled environment node scope (.operation .plus [operand]) ∧
    result scope operand = .success (.number Floating.zero.negate)

theorem MeetsNegativeZero.of_demands {environment scope : Environment} {node part : Node}
    (demands : Demands settled environment node scope part)
    (meets : MeetsNegativeZero scope part) : MeetsNegativeZero environment node := by
  rcases meets with ⟨last, operand, reaches, isZero⟩
  exact ⟨last, operand, .inside demands reaches, isZero⟩

theorem MeetsNegativeZero.cases {environment : Environment} {node : Node}
    (meets : MeetsNegativeZero environment node) :
    (∃ operand, node = .operation .plus [operand] ∧
      result environment operand = .success (.number Floating.zero.negate)) ∨
    ∃ scope part, Demands settled environment node scope part ∧ MeetsNegativeZero scope part := by
  rcases meets with ⟨last, operand, reaches, isZero⟩
  cases reaches with
  | here => exact .inl ⟨operand, rfl, isZero⟩
  | inside demands reaches => exact .inr ⟨_, _, demands, last, operand, reaches, isZero⟩

theorem not_meetsNegativeZero_of_isNormal {environment : Environment} {node : Node}
    (normal : node.IsNormal) : ¬ MeetsNegativeZero environment node := by
  rintro ⟨scope, operand, reaches, _⟩
  rcases (Node.isNormal_iff _).mp (reaches.isNormal normal) with ⟨_, impossible⟩ | ⟨_, impossible⟩
  · cases impossible
  · cases impossible

theorem not_meetsNegativeZero_name {environment : Environment} (normal : environment.IsNormal)
    (text : Text) : ¬ MeetsNegativeZero environment (.name text) := by
  intro meets
  rcases meets.cases with ⟨_, impossible, _⟩ | ⟨_, bound, demands, meets⟩
  · cases impossible
  · cases demands with
    | binding found composed =>
        exact not_meetsNegativeZero_of_isNormal (normal text bound found) meets

theorem not_meetsNegativeZero_operation {environment : Environment} {operator : Operator}
    {operands : List Node}
    (regular : operator = .plus -> forall operand, operands = [operand] ->
      result environment operand ≠ .success (.number Floating.zero.negate))
    (each : forall operand, operand ∈ operands -> ¬ MeetsNegativeZero environment operand) :
    ¬ MeetsNegativeZero environment (.operation operator operands) := by
  intro meets
  rcases meets.cases with ⟨operand, isSum, isZero⟩ | ⟨scope, part, demands, meetsPart⟩
  · cases isSum
    exact regular rfl operand rfl isZero
  · cases demands with
    | operand => exact each part (List.mem_append_right _ List.mem_cons_self) meetsPart

/-- Of one number an operator makes that number, unless it is a sum of negative zero. -/
theorem combine_single {operator : Operator} {number : Single}
    (regular : operator = .plus -> number ≠ Floating.zero.negate) :
    combine operator [number] = .success (.number number) := by
  cases operator with
  | plus => rw [combine, (foldSum_single_iff number).mpr (regular rfl)]
  | times => rw [combine, foldProduct_single]
  | minus => rw [combine, subtractAll_nil]
  | power => rw [combine, powerAll_nil]
  | _ =>
      have nonzero : ¬ (Floating.one : Single).isZero = true := by decide +kernel
      rw [combine, foldProduct_nil, if_neg nonzero, quotient_one]

/-- The induction is on the room.  Where an operation of a single operand was taken away
less of it is needed, so the value is found with any room that there was, and with more. -/
theorem value_of_unwrapsTo {depth more : Nat} (enough : depth ≤ more)
    {environment : Environment} (normal : environment.IsNormal) {node unwrapped : Node}
    (unwraps : node.UnwrapsTo unwrapped) (regular : ¬ MeetsNegativeZero environment node)
    {found : Value} (evaluates : (value depth environment node).value = .success found) :
    (value more environment unwrapped).value = .success found := by
  induction depth generalizing more environment node unwrapped found with
  | zero => cases evaluates
  | succ depth inductionHypothesis =>
      rw [value, Trial.value_afterPause] at evaluates
      rcases unwraps.cases with ⟨operator, operand, rfl, operandUnwraps⟩ | alike
      · rw [rule, value_operation, value_numbers, Outcome.traverse] at evaluates
        rcases Outcome.bind_eq_success evaluates with ⟨numbers, areNumbers, combines⟩
        rcases Outcome.bind_eq_success areNumbers with ⟨number, isNumber, only⟩
        cases only
        rw [number_eq_success_iff] at isNumber
        have positive : operator = .plus -> number ≠ Floating.zero.negate := by
          intro isPlus isZero
          subst isPlus
          rw [isZero] at isNumber
          exact regular ⟨environment, operand, .here,
            result_of_value normal operandUnwraps.expression isNumber⟩
        rw [combine_single positive] at combines
        cases combines
        -- The operand was found one level below, so the induction gives it all of the room.
        have demands : Demands settled environment (.operation operator ([] ++ [operand]))
            environment operand := .operand (by rintro _ ⟨⟩)
        exact inductionHypothesis (by omega) normal operandUnwraps
          (fun meets => regular (meets.of_demands demands)) isNumber
      · obtain ⟨fewer, rfl⟩ : ∃ fewer, more = fewer + 1 := ⟨more - 1, by omega⟩
        have enough := Nat.le_of_succ_le_succ enough
        rw [value, Trial.value_afterPause]
        refine rule_of_alike _ alike ?_ ?_ evaluates
        · intro text bound found isBound
          exact value_of_le enough normal
            (isExpression_of_isNormal (normal text bound isBound))
        · intro scope part otherPart found partUnwraps demands
          have comes := demands.settled normal unwraps.expression
          exact inductionHypothesis enough (demands.isNormal_scope normal) partUnwraps
            fun meets => regular (meets.of_demands comes)

/-- The exception is one: there the normal form has another value. -/
theorem result_sum_of_negativeZero {environment : Environment} (normal : environment.IsNormal)
    {operand : Node}
    (isZero : result environment operand = .success (.number Floating.zero.negate)) :
    result environment (.operation .plus [operand]) = .success (.number Floating.zero) := by
  have sum : foldSum [(Floating.zero.negate : Single)] = Floating.zero := by decide +kernel
  rw [result_operation normal, Outcome.traverse, resultNumber, isZero]
  exact congrArg (fun number => Outcome.success (Value.number number)) sum

/-- Every expression can be normalized, and its normal form has the values that the
expression has, with the same room and of the same expected kinds.  That is so in all
bindings of normal forms, as long as no sum is evaluated that has negative zero as its
only operand. -/
theorem evaluate_normalized {environment : Environment} (normal : environment.IsNormal)
    {node : Node} (expression : node.IsExpression) :
    ∃ unwrapped, node.normalize = .ok unwrapped ∧
      (¬ MeetsNegativeZero environment node -> forall depth expected found,
        (evaluate depth environment expected node).value = .success found ->
        (evaluate depth environment expected unwrapped).value = .success found) := by
  obtain ⟨unwrapped, normalized⟩ := expression.exists_normalize
  refine ⟨unwrapped, normalized, fun regular depth expected found evaluates => ?_⟩
  rw [evaluate, Trial.value_andThen] at evaluates ⊢
  rcases Outcome.bind_eq_success evaluates with ⟨value, isValue, expects⟩
  rw [value_of_unwrapsTo (Nat.le_refl depth) normal ⟨expression, normalized⟩ regular isValue,
    Outcome.bind_success, expects]

/-- The numbers from one to two, each of them by itself in a sum and in a quotient. -/
def wrapped : Node :=
  .map (.range (.operation .times [.number Floating.one]) (.number (ofInteger 2)))
    (.mapper (.name ['x']) (.operation .over [.operation .plus [.name ['x']]]))

/-- Sums are evaluated at one and at two only. -/
theorem not_meetsNegativeZero_wrapped : ¬ MeetsNegativeZero [] wrapped := by
  have numbers (environment : Environment) (number : Single) :
      ¬ MeetsNegativeZero environment (.number number) :=
    not_meetsNegativeZero_of_isNormal (Value.isNormal_toNode (.number number))
  intro meets
  rcases meets.cases with ⟨_, impossible, _⟩ | ⟨_, _, demands, meets⟩
  · cases impossible
  cases demands with
  | mapSource =>
      rcases meets.cases with ⟨_, impossible, _⟩ | ⟨_, _, demands, meets⟩
      · cases impossible
      cases demands with
      | start =>
          refine not_meetsNegativeZero_operation (by rintro ⟨⟩) ?_ meets
          exact List.forall_mem_singleton.mpr (numbers _ _)
      | stop => exact numbers _ _ meets
  | @mapBody _ _ _ before after element takes =>
      have source : (settled [] (.range (.operation .times [.number Floating.one])
          (.number (ofInteger 2)))).value = .success (.sequence [Floating.one, ofInteger 2]) := by
        decide +kernel
      rw [source, Outcome.success.injEq, Value.sequence.injEq] at takes
      have member : element ∈ [Floating.one, ofInteger 2] := by
        rw [takes]
        exact List.mem_append_right before List.mem_cons_self
      have normal := Environment.isNormal_nil.insert_number ['x'] element
      have isElement : result (Environment.insert [] ['x'] (.number element)) (.name ['x']) =
          .success (.number element) := by
        rw [result_name normal, Environment.find?_insert_self]
        exact result_toNode _ (.number element)
      have regular : forall number, number ∈ [Floating.one, ofInteger 2] ->
          number ≠ Floating.zero.negate := by decide +kernel
      refine not_meetsNegativeZero_operation (by rintro ⟨⟩) ?_ meets
      refine List.forall_mem_singleton.mpr (not_meetsNegativeZero_operation ?_ ?_)
      · rintro _ operand ⟨⟩ isZero
        rw [isElement, Outcome.success.injEq, Value.number.injEq] at isZero
        exact regular element member isZero
      · exact List.forall_mem_singleton.mpr (not_meetsNegativeZero_name normal _)

theorem evaluate_normalized_wrapped :
    wrapped.IsExpression ∧ ¬ MeetsNegativeZero [] wrapped ∧
    wrapped.normalize = .ok (.map (.range (.number Floating.one) (.number (ofInteger 2)))
      (.mapper (.name ['x']) (.name ['x']))) ∧
    (evaluate 6 [] .sequence wrapped).value =
      .success (.sequence [Floating.one, ofInteger 2]) ∧
    (evaluate 6 [] .sequence (.map (.range (.number Floating.one) (.number (ofInteger 2)))
      (.mapper (.name ['x']) (.name ['x'])))).value =
        .success (.sequence [Floating.one, ofInteger 2]) := by
  have expression : wrapped.IsExpression :=
    .map (.range (.operation .times (List.forall_mem_singleton.mpr (.number _))) (.number _)) _
      (.operation .over (List.forall_mem_singleton.mpr
        (.operation .plus (List.forall_mem_singleton.mpr (.name _)))))
  have evaluates : (evaluate 6 [] .sequence wrapped).value =
      .success (.sequence [Floating.one, ofInteger 2]) := by decide +kernel
  rcases evaluate_normalized Environment.isNormal_nil expression with ⟨unwrapped, same, preserves⟩
  cases same
  exact ⟨expression, not_meetsNegativeZero_wrapped, rfl, evaluates,
    preserves not_meetsNegativeZero_wrapped 6 .sequence _ evaluates⟩

end Evaluation

end SequenceCalculator
