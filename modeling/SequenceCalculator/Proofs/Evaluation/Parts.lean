import SequenceCalculator.Proofs.Evaluation.Scopes

namespace SequenceCalculator

/-!
# What an expression is evaluated from

To evaluate an expression is to evaluate expressions inside it, each in the bindings
around the whole or in a scope that a function makes from them.  `Evaluation.Inside`
lists these expressions with their scopes; it says which may be evaluated, not which
are.  A name is the one expression that is evaluated from the bindings themselves.

The run of an expression, its pauses included, is determined by that.  So whatever
makes two evaluators, or two environments, agree on what is inside makes them agree on
the whole.

Without the pauses, the operands of an operation are evaluated in order, and then the
operator combines their numbers.  A range is the interval between two numbers.
-/

open Number

namespace Evaluation

/-- The parts of a function of one parameter come from a node of that shape. -/
theorem mapperParts_eq_ok {function body : Node} {name : Option Text}
    (parsed : mapperParts function = .ok (name, body)) :
    ∃ parameter, function = .mapper parameter body ∧ boundName parameter = .ok name := by
  cases function with
  | mapper parameter inner =>
      cases bound : boundName parameter with
      | error fault => rw [mapperParts, bound] at parsed; cases parsed
      | ok found => rw [mapperParts, bound] at parsed; cases parsed; exact ⟨parameter, rfl, bound⟩
  | _ => cases parsed

/-- The parts of a function of two parameters come from a node of that shape. -/
theorem reducerParts_eq_ok {function body : Node} {firstName secondName : Option Text}
    (parsed : reducerParts function = .ok (firstName, secondName, body)) :
    ∃ first second, function = .reducer first second body ∧
      boundName first = .ok firstName ∧ boundName second = .ok secondName := by
  cases function with
  | reducer first second inner =>
      rw [reducerParts] at parsed
      cases firstBound : boundName first with
      | error fault => rw [firstBound] at parsed; cases parsed
      | ok firstFound =>
          cases secondBound : boundName second with
          | error fault => rw [firstBound, secondBound] at parsed; cases parsed
          | ok secondFound =>
              rw [firstBound, secondBound] at parsed
              cases parsed
              exact ⟨first, second, rfl, firstBound, secondBound⟩
  | _ => cases parsed

/-- The evaluation of an expression may evaluate another one inside it, in a scope
that is made from the bindings around the whole. -/
inductive Inside : Node -> (Environment -> Environment) -> Node -> Prop where
  | operand {operator : Operator} {operands : List Node} {operand : Node}
      (member : operand ∈ operands) : Inside (.operation operator operands) id operand
  | element {elements : List Node} {element : Node} (member : element ∈ elements) :
      Inside (.sequence elements) id element
  | start {start stop : Node} : Inside (.range start stop) id start
  | stop {start stop : Node} : Inside (.range start stop) id stop
  | mapSource {source function : Node} : Inside (.map source function) id source
  | mapBody {source function body : Node} {parameter : Option Text}
      (parts : mapperParts function = .ok (parameter, body)) (element : Single) :
      Inside (.map source function) (fun scope => assign scope parameter (.number element)) body
  | reduceSource {source primer function : Node} :
      Inside (.reduce source primer function) id source
  | primer {source primer function : Node} : Inside (.reduce source primer function) id primer
  | reduceBody {source primer function body : Node} {first second : Option Text}
      (parts : reducerParts function = .ok (first, second, body)) (accumulator element : Single) :
      Inside (.reduce source primer function)
        (fun scope => assign (assign scope first (.number accumulator)) second (.number element))
        body

section Congruence

variable {first second : Evaluator} {here there : Environment}

theorem number_congr {node : Node} (agree : first here node = second there node) :
    number first here node = number second there node := by
  rw [number, number, agree]

theorem elements_congr {node : Node} (agree : first here node = second there node) :
    elements first here node = elements second there node := by
  rw [elements, elements, agree]

theorem numbers_congr {nodes : List Node}
    (agree : forall node, node ∈ nodes -> first here node = second there node) :
    numbers first here nodes = numbers second there nodes :=
  Trial.traverse_congr fun node member => number_congr (agree node member)

theorem baseAndRest_congr {nodes : List Node}
    (agree : forall node, node ∈ nodes -> first here node = second there node) :
    baseAndRest first here nodes = baseAndRest second there nodes := by
  cases nodes with
  | nil => rfl
  | cons base rest =>
      have restAgree : numbers first here rest = numbers second there rest :=
        numbers_congr fun node member => agree node (List.mem_cons_of_mem base member)
      simp only [baseAndRest, number_congr (agree base List.mem_cons_self), restAgree]

theorem operation_congr (operator : Operator) {nodes : List Node}
    (agree : forall node, node ∈ nodes -> first here node = second there node) :
    operation first here operator nodes = operation second there operator nodes := by
  cases operator <;> simp only [operation, numbers_congr agree, baseAndRest_congr agree]

/-- A map depends on the body of its function only.  Without a body it stops at the
first element, whatever the scope. -/
theorem mapElements_congr {function : Node}
    (agree : forall parameter body element, mapperParts function = .ok (parameter, body) ->
      first (assign here parameter (.number element)) body =
        second (assign there parameter (.number element)) body)
    (found source : List Single) :
    mapElements first function here found source =
      mapElements second function there found source := by
  cases parts : mapperParts function with
  | error fault => cases source <;> simp only [mapElements, parts]
  | ok found =>
      rcases found with ⟨parameter, body⟩
      rw [mapElements_eq_traverseFrom first here parts,
        mapElements_eq_traverseFrom second there parts]
      apply Trial.traverseFrom_congr
      intro element _
      rw [atElement, atElement, number_congr (agree parameter body element parts)]

/-- The same for a function that is folded over the elements. -/
theorem reduceElements_congr {function : Node}
    (agree : forall one two body accumulator element,
      reducerParts function = .ok (one, two, body) ->
      first (assign (assign here one (.number accumulator)) two (.number element)) body =
        second (assign (assign there one (.number accumulator)) two (.number element)) body)
    (accumulator : Single) (source : List Single) :
    reduceElements first function here accumulator source =
      reduceElements second function there accumulator source := by
  cases parts : reducerParts function with
  | error fault => cases source <;> simp only [reduceElements, parts]
  | ok found =>
      rcases found with ⟨one, two, body⟩
      rw [reduceElements_eq_fold first here parts, reduceElements_eq_fold second there parts]
      apply Trial.fold_congr
      intro given element
      rw [atStep, atStep, number_congr (agree one two body given element parts)]

/-- An expression is evaluated from what is inside it, and a name from its binding. -/
theorem rule_congr {node : Node}
    (looksUp : forall text, node = .name text -> here.find? text = there.find? text ∧
      forall bound, here.find? text = some bound -> first here bound = second there bound)
    (agree : forall {enter part}, Inside node enter part ->
      first (enter here) part = second (enter there) part) :
    rule first here node = rule second there node := by
  cases node with
  | number value => rfl
  | string content => rfl
  | mapper parameter body => rfl
  | reducer one two body => rfl
  | declare declared expression => rfl
  | print literal => rfl
  | out expression => rfl
  | foreign value => rfl
  | name text =>
      rcases looksUp text rfl with ⟨same, boundAgree⟩
      simp only [rule, ← same]
      cases found : here.find? text with
      | none => rfl
      | some bound =>
          cases bound with
          | number value => rfl
          | _ => exact boundAgree _ found
  | operation operator operands =>
      exact operation_congr operator fun operand member => agree (.operand member)
  | sequence elements =>
      have elementsAgree : numbers first here elements = numbers second there elements :=
        numbers_congr fun element member => agree (.element member)
      simp only [rule, elementsAgree]
  | range start stop =>
      have startAgree : number first here start = number second there start :=
        number_congr (agree .start)
      have stopAgree : number first here stop = number second there stop :=
        number_congr (agree .stop)
      simp only [rule, range, startAgree, stopAgree]
  | map source function =>
      have sourceAgree : Evaluation.elements first here source =
          Evaluation.elements second there source := elements_congr (agree .mapSource)
      have bodiesAgree := mapElements_congr fun parameter body element parts =>
        agree (.mapBody parts element)
      simp only [rule, sourceAgree, bodiesAgree]
  | reduce source primer function =>
      have sourceAgree : Evaluation.elements first here source =
          Evaluation.elements second there source := elements_congr (agree .reduceSource)
      have primerAgree : number first here primer = number second there primer :=
        number_congr (agree .primer)
      have bodiesAgree := reduceElements_congr fun one two body accumulator element parts =>
        agree (.reduceBody parts accumulator element)
      simp only [rule, sourceAgree, primerAgree, bodiesAgree]

end Congruence

/-!
## Without the pauses
-/

/-- What an operator makes of the numbers of its operands. -/
def combine : Operator -> List Single -> Outcome Failure Value
  | .plus, numbers => .success (.number (foldSum numbers))
  | .times, numbers => .success (.number (foldProduct numbers))
  | .minus, base :: rest => .success (.number (subtractAll base rest))
  | .over, dividend :: divisors =>
      if (foldProduct divisors).isZero then .failure (.divisionByZero dividend)
      else .success (.number (quotient dividend (foldProduct divisors)))
  | .power, base :: exponents => .success (.number (powerAll base exponents))
  | _, [] => .fault .missingOperand

/-- The whole numbers between two bounds. -/
def interval (start stop : Single) : Outcome Failure Value :=
  if stop.below start then .failure (.malformedRange start stop)
  else (Outcome.ofExcept (integerRange start stop)).map Value.sequence

section Parts

variable (inner : Evaluator) (environment : Environment)

theorem value_number (node : Node) :
    (number inner environment node).value =
      (inner environment node).value.bind Value.expectNumber := by
  rw [number, Trial.value_andThen]
  rfl

theorem value_elements (node : Node) :
    (elements inner environment node).value =
      (inner environment node).value.bind Value.expectSequence := by
  rw [elements, Trial.value_andThen]
  rfl

theorem value_numbers (nodes : List Node) :
    (numbers inner environment nodes).value =
      Outcome.traverse (fun node => (number inner environment node).value) nodes := by
  rw [numbers, Trial.value_traverse]

/-- What is done with a first operand and the others, done with all of them. -/
def withFirst {β : Type} (next : Single × List Single -> Outcome Failure β) :
    List Single -> Outcome Failure β
  | [] => .fault .missingOperand
  | base :: rest => next (base, rest)

/-- The first operand is evaluated apart from the others.  That makes no difference. -/
theorem value_baseAndRest_bind {β : Type} (next : Single × List Single -> Outcome Failure β)
    (operands : List Node) :
    (baseAndRest inner environment operands).value.bind next =
      (numbers inner environment operands).value.bind (withFirst next) := by
  cases operands with
  | nil => rfl
  | cons base rest =>
      simp only [baseAndRest, Trial.value_andThen, Trial.value_map, value_numbers,
        Outcome.traverse]
      cases (number inner environment base).value with
      | failure reason => rfl
      | fault cause => rfl
      | success base =>
          simp only [Outcome.bind_success]
          cases Outcome.traverse (fun node => (number inner environment node).value) rest <;> rfl

theorem value_operation (operator : Operator) (operands : List Node) :
    (operation inner environment operator operands).value =
      (numbers inner environment operands).value.bind (combine operator) := by
  cases operator with
  | plus => rw [operation, Trial.value_map, Outcome.map_eq_bind]; rfl
  | times => rw [operation, Trial.value_map, Outcome.map_eq_bind]; rfl
  | minus =>
      rw [operation, Trial.value_map, Outcome.map_eq_bind, value_baseAndRest_bind]
      congr 1
      funext numbers
      cases numbers <;> rfl
  | power =>
      rw [operation, Trial.value_map, Outcome.map_eq_bind, value_baseAndRest_bind]
      congr 1
      funext numbers
      cases numbers <;> rfl
  | _ =>
      -- Only division can fail once its operands are numbers.
      rw [operation, Trial.value_andThen, value_baseAndRest_bind]
      congr 1
      funext numbers
      cases numbers with
      | nil => rfl
      | cons dividend divisors =>
          simp only [withFirst, combine]
          split <;> rfl

theorem value_range (start stop : Node) :
    (range inner environment start stop).value =
      (number inner environment start).value.bind fun first =>
        (number inner environment stop).value.bind fun last => interval first last := by
  simp only [range, Trial.value_andThen]
  congr 1
  funext first
  congr 1
  funext last
  rw [interval]
  split <;> rfl

end Parts

end Evaluation

end SequenceCalculator
