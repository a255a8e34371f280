import SequenceCalculator.Proofs.Evaluation.Faults

namespace SequenceCalculator

/-!
# Programs that end with a fault

A program ends with a fault exactly when one of its statements does, behind
statements that have all been completed.  For programs that were read from a text
this comes down to ranges without finite bounds, wherever they are met: in a
declared expression, or in one that is evaluated to be displayed.
-/

open Number Grammar

namespace Evaluation

theorem putsText_of_formed {node : Node} (formed : FormedStatement node) : PutsText node := by
  cases formed <;> trivial

/-- Behind completed statements, what a statement does decides. -/
theorem Completes.program_eq_fault {depth count : Nat} {start environment : Environment}
    {done rest : List Node} {node : Node} {items : List Printed} {cause : Fault}
    (completes : Completes depth start done items environment count)
    (stops : (alone depth environment node).complete.2 = .fault cause) (printed : List Printed) :
    (program depth printed (done ++ node :: rest) start).complete.2 = .fault cause := by
  rw [completes.complete_program, complete_program_of_fault (Prod.ext rfl stops)]

theorem program_eq_fault_iff (depth : Nat) (start : Environment) {nodes : List Node}
    (texts : forall node, node ∈ nodes -> PutsText node) (cause : Fault) :
    (program depth [] nodes start).complete.2 = .fault cause ↔
      ∃ done node rest items environment count, nodes = done ++ node :: rest ∧
        Completes depth start done items environment count ∧
        (alone depth environment node).complete.2 = .fault cause := by
  constructor
  · intro stops
    have standing := standing_after depth [] nodes start (program depth [] nodes start).suspensions
    rw [Activity.after_suspensions, stops] at standing
    generalize isFinal : Activity.finished (program depth [] nodes start).complete.1
      (Outcome.fault cause) = final at standing
    cases standing with
    | inside split completes begun unfinished => cases isFinal
    | failed split completes fails => cases isFinal
    | stopped split completes stopped =>
        cases isFinal
        exact ⟨_, _, _, _, _, _, split, completes, stopped⟩
    | completed completes =>
        rcases joinFrom_of_texts (completes.items texts) 0 with ⟨text, joined⟩
        rw [List.nil_append, joined] at isFinal
        cases isFinal
  · rintro ⟨done, node, rest, items, environment, count, rfl, completes, stops⟩
    exact completes.program_eq_fault stops []

theorem Completes.isNormal {depth count : Nat} {start environment : Environment}
    {done : List Node} {items : List Printed} (normal : start.IsNormal)
    (completes : Completes depth start done items environment count) : environment.IsNormal := by
  rw [completes.environment_eq]
  exact isNormal_foldl_declared depth normal done

section Statements

variable {depth : Nat} {environment : Environment} {cause : Fault}

theorem alone_declare_eq_fault_iff (declared : Text) (expression : Node) :
    (alone depth environment (.declare (.name declared) expression)).complete.2 = .fault cause ↔
      (value depth environment expression).value = .fault cause := by
  simp only [alone, statement, boundName, Activity.complete_follow]
  cases (value depth environment expression).value <;> simp [Activity.complete]

theorem alone_out_eq_fault_iff (expression : Node) :
    (alone depth environment (.out expression)).complete.2 = .fault cause ↔
      (display depth environment expression).value = .fault cause := by
  simp only [alone, statement, Activity.complete_follow]
  cases (display depth environment expression).value <;> simp [Activity.complete]

/-- A statement that was read can end with three faults, one of which says that
there was too little room. -/
theorem alone_fault_cases (normal : environment.IsNormal) {node : Node}
    (formed : FormedStatement node)
    (stops : (alone depth environment node).complete.2 = .fault cause) :
    cause = .tooDeep ∨ cause = .infiniteBound ∨ cause = .undefinedBound := by
  cases formed with
  | declare declared bound =>
      rw [alone_declare_eq_fault_iff] at stops
      exact value_fault_cases normal (.inl bound) stops
  | out shown =>
      rw [alone_out_eq_fault_iff] at stops
      exact display_fault_cases normal (.inl shown) stops
  | print literal => cases stops

end Statements

theorem program_fault_cases {depth : Nat} {start : Environment} (normal : start.IsNormal)
    {nodes : List Node} (formed : forall node, node ∈ nodes -> FormedStatement node)
    {cause : Fault} (stops : (program depth [] nodes start).complete.2 = .fault cause) :
    cause = .tooDeep ∨ cause = .infiniteBound ∨ cause = .undefinedBound := by
  have texts := fun node member => putsText_of_formed (formed node member)
  rcases (program_eq_fault_iff depth start texts cause).mp stops with
    ⟨done, node, rest, items, environment, count, rfl, completes, stopsThere⟩
  exact alone_fault_cases (completes.isNormal normal)
    (formed node (List.mem_append_right done List.mem_cons_self)) stopsThere

/-- A statement comes upon a range without finite bounds: in the expression that it
declares, or in one that is evaluated to display what it puts out. -/
inductive StatementMeets (environment : Environment) : Node -> Fault -> Prop where
  | declare {name expression : Node} {cause : Fault}
      (meets : MeetsUnbounded environment expression cause) :
      StatementMeets environment (.declare name expression) cause
  | out {expression part : Node} {cause : Fault} (shows_ : Shows environment expression part)
      (meets : MeetsUnbounded environment part cause) :
      StatementMeets environment (.out expression) cause

/-- A program comes upon a range without finite bounds, behind statements that it
has completed. -/
def ProgramMeets (depth : Nat) (start : Environment) (nodes : List Node) (cause : Fault) : Prop :=
  ∃ done node rest items environment count, nodes = done ++ node :: rest ∧
    Completes depth start done items environment count ∧ StatementMeets environment node cause

theorem alone_eq_fault_iff {depth : Nat} {environment : Environment}
    (normal : environment.IsNormal) {node : Node} (formed : FormedStatement node)
    (enough : node.height + 2 ≤ depth) (cause : Fault) :
    (alone depth environment node).complete.2 = .fault cause ↔
      StatementMeets environment node cause := by
  cases formed with
  | @declare declared expression bound =>
      rw [Node.height] at enough
      rw [alone_declare_eq_fault_iff, value_eq_result normal (by omega),
        result_eq_fault_iff normal bound]
      constructor
      · exact .declare
      · rintro ⟨meets⟩
        exact meets
  | @out expression shown =>
      rw [Node.height] at enough
      rw [alone_out_eq_fault_iff, display_eq_displayed normal (by omega)]
      constructor
      · intro stops
        rcases exists_shows_of_fault normal shown stops with ⟨part, shows_, stopsThere⟩
        exact .out shows_ ((result_eq_fault_iff normal (shows_.formed shown) cause).mp stopsThere)
      · rintro (_ | ⟨shows_, meets⟩)
        exact shows_.displayed_eq_fault normal
          ((result_eq_fault_iff normal (shows_.formed shown) cause).mpr meets)
  | print literal =>
      constructor
      · intro impossible
        cases impossible
      · intro impossible
        cases impossible

/-- A program of formed statements that starts from normal forms, with enough room,
ends with a fault exactly when it comes upon a range without finite bounds. -/
theorem program_eq_fault_iff_meets {depth : Nat} {nodes : List Node} {start : Environment}
    (normal : start.IsNormal) (formed : forall node, node ∈ nodes -> FormedStatement node)
    (enough : forall node, node ∈ nodes -> node.height + 2 ≤ depth) (cause : Fault) :
    (program depth [] nodes start).complete.2 = .fault cause ↔
      ProgramMeets depth start nodes cause := by
  have texts := fun node member => putsText_of_formed (formed node member)
  rw [program_eq_fault_iff depth start texts cause]
  have each : forall {done rest : List Node} {node : Node} {items : List Printed}
      {environment : Environment} {count : Nat}, nodes = done ++ node :: rest ->
      Completes depth start done items environment count ->
      ((alone depth environment node).complete.2 = .fault cause ↔
        StatementMeets environment node cause) := by
    intro done rest node items environment count split completes
    have member : node ∈ nodes := by
      rw [split]
      exact List.mem_append_right done List.mem_cons_self
    exact alone_eq_fault_iff (completes.isNormal normal) (formed node member)
      (enough node member) cause
  constructor
  · rintro ⟨done, node, rest, items, environment, count, split, completes, stopsThere⟩
    exact ⟨done, node, rest, items, environment, count, split, completes,
      (each split completes).mp stopsThere⟩
  · rintro ⟨done, node, rest, items, environment, count, split, completes, meets⟩
    exact ⟨done, node, rest, items, environment, count, split, completes,
      (each split completes).mpr meets⟩

/-- A program that was read from a text, run from normal forms with enough room for
its depth, ends with an output or a failure exactly when it does not come upon a
range without finite bounds.  Otherwise it ends with the fault of the first bound
that is not finite, and with no other fault. -/
theorem program_fault_iff_unbounded {nesting depth : Nat} {text : Text} {nodes : List Node}
    {start : Environment} (reads : parseProgram nesting text = .success nodes)
    (normal : start.IsNormal) (enough : forall node, node ∈ nodes -> node.height + 2 ≤ depth) :
    (((∃ output, (program depth [] nodes start).complete.2 = .success output) ∨
        ∃ reason, (program depth [] nodes start).complete.2 = .failure reason) ↔
      ¬ ∃ cause, ProgramMeets depth start nodes cause) ∧
    forall cause,
      ((program depth [] nodes start).complete.2 = .fault cause ↔
        ProgramMeets depth start nodes cause) ∧
      (ProgramMeets depth start nodes cause ->
        cause = .infiniteBound ∨ cause = .undefinedBound) := by
  have stops := program_eq_fault_iff_meets normal (formed_of_parseProgram reads) enough
  refine ⟨?_, fun cause => ⟨stops cause, ?_⟩⟩
  · simp only [← stops]
    cases (program depth [] nodes start).complete.2 with
    | success output => simp
    | failure reason => simp
    | fault cause => simp
  · rintro ⟨done, node, rest, items, environment, count, split, completes, meets⟩
    cases meets with
    | declare meets => exact meets.cause_cases
    | out shows_ meets => exact meets.cause_cases

/-- A range up to a numeral that is too great to be finite. -/
def greatRangeText : Text :=
  "out \x7b1 .. 9999999999999999999999999999999999999999\x7d".toList

def greatRange : Node :=
  .out (.range (.number Floating.one) (.number (.infinite false)))

/-- Whether a reading has found that range and nothing else. -/
def isGreatRange : Outcome SyntaxError (List Node) -> Bool
  | .success [.out (.range (.number start) (.number stop))] =>
      decide (start = Floating.one) && decide (stop = .infinite false)
  | _ => false

theorem parse_greatRangeText :
    parseProgram nestingLimit greatRangeText = .success [greatRange] := by
  have shape : isGreatRange (parseProgram nestingLimit greatRangeText) = true := by
    decide +kernel
  unfold isGreatRange at shape
  split at shape
  · next start stop parsed =>
      rw [Bool.and_eq_true, decide_eq_true_eq, decide_eq_true_eq] at shape
      rw [parsed, shape.1, shape.2]
      rfl
  · cases shape

theorem program_fault_iff_unbounded_greatRange :
    parseProgram nestingLimit greatRangeText = .success [greatRange] ∧
    Environment.IsNormal [] ∧
    (forall node, node ∈ [greatRange] -> node.height + 2 ≤ depthLimit) ∧
    ((program depthLimit [] [greatRange] []).complete.2 = .fault .infiniteBound ↔
      ProgramMeets depthLimit [] [greatRange] .infiniteBound) := by
  have low : forall node, node ∈ [greatRange] -> node.height + 2 ≤ depthLimit := by
    intro node member
    rw [List.mem_singleton.mp member]
    decide
  exact ⟨parse_greatRangeText, Environment.isNormal_nil, low,
    ((program_fault_iff_unbounded parse_greatRangeText Environment.isNormal_nil low).2
      .infiniteBound).1⟩

/-- A text that can be typed shows it: it is read, and running it gives neither an
output nor a failure. -/
theorem greatRange_neither_output_nor_failure :
    parseProgram nestingLimit greatRangeText = .success [greatRange] ∧
    (program depthLimit [] [greatRange] []).complete.2 = .fault .infiniteBound ∧
    ¬ ((∃ output, (program depthLimit [] [greatRange] []).complete.2 = .success output) ∨
      ∃ reason, (program depthLimit [] [greatRange] []).complete.2 = .failure reason) := by
  have stops : (program depthLimit [] [greatRange] []).complete.2 = .fault .infiniteBound := by
    decide +kernel
  refine ⟨parse_greatRangeText, stops, ?_⟩
  rw [stops]
  rintro (⟨output, impossible⟩ | ⟨reason, impossible⟩)
  · cases impossible
  · cases impossible

end Evaluation

end SequenceCalculator
