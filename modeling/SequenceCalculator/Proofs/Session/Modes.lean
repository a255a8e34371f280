import SequenceCalculator.Proofs.Evaluation.ProgramFaults
import SequenceCalculator.Proofs.Grammar.Lines
import SequenceCalculator.Proofs.Report.Notices
import SequenceCalculator.Proofs.Session.Bindings

namespace SequenceCalculator

/-!
# A file and the same lines typed

Statements that are typed one by one do what they do as the lines of a file.  Each
line of the file is read as it is on its own, and a program is its statements one
after the other, so the bindings are the same at every line.  Where a typed line
raises something, the file raises the same and goes no further.

What is raised is either the notice about a failed evaluation or the fault of a
range without finite bounds, in both modes alike; a fault is no notice.
-/

open Number Grammar Evaluation

namespace Evaluation

theorem joinFrom_texts (index : Nat) (contents : List Text) :
    joinFrom index (contents.map .text) = .ok contents.flatten := by
  induction contents generalizing index with
  | nil => rfl
  | cons content contents inductionHypothesis =>
      rw [List.map_cons, joinFrom, inductionHypothesis, List.flatten_cons]
      rfl

/-- At the end, the texts that were put out are joined. -/
theorem complete_program_nil (depth : Nat) (environment : Environment) (contents : List Text) :
    (program depth (contents.map .text) [] environment).complete =
      (environment, .success contents.flatten) := by
  rw [program, Activity.complete, joinFrom_texts]
  rfl

end Evaluation

namespace Session

variable {session : Session}

/-!
## What a text does to a session
-/

/-- What the outcome of an evaluation is to whoever has run it. -/
def answer : Outcome Failure Text -> Except Raised Text
  | .success output => .ok output
  | .failure failure => .error (.notice (Notice.bare failure.message false false))
  | .fault cause => .error (.fault cause)

theorem answer_eq_fault_iff {outcome : Outcome Failure Text} {cause : Fault} :
    answer outcome = .error (.fault cause) ↔ outcome = .fault cause := by
  cases outcome <;> simp [answer]

theorem answer_eq_error {outcome : Outcome Failure Text} {raised : Raised}
    (raises : answer outcome = .error raised) :
    (∃ failure : Failure, raised = .notice (Notice.bare failure.message false false)) ∨
      ∃ cause, outcome = .fault cause ∧ raised = .fault cause := by
  cases outcome with
  | success output => cases raises
  | failure failure => cases raises; exact .inl ⟨failure, rfl⟩
  | fault cause => cases raises; exact .inr ⟨cause, rfl, rfl⟩

theorem conclude_answer (session : Session) (outcome : Outcome Failure Text) :
    (session.conclude outcome).2 = answer outcome := by
  cases outcome with
  | success output => rfl
  | failure failure =>
      exact raising_of_ofDraft (Notice.ofDraft_escape _ failure.message false false)
  | fault cause => rfl

/-- A text that is read gives the answer of its program. -/
theorem run_of_nodes {text : Text} {nodes : List Node}
    (reads : session.reading text = .success nodes) (number : Int)
    {environment : Environment} {outcome : Outcome Failure Text}
    (ends : (program session.limits.depth [] nodes session.environment).complete =
      (environment, outcome)) :
    (session.run text number).1.environment = environment ∧
      (session.run text number).2 = answer outcome := by
  rcases run_of_reading number reads ends with ⟨journal, runs⟩
  rw [runs]
  exact ⟨environment_conclude _ outcome, conclude_answer _ outcome⟩

/-- What a typed text gives is the answer of its statement, which is completed or
leaves the bindings alone. -/
theorem run_typed {text : Text} {node : Node} (interactive : session.interactive = true)
    (reads : parseStatement session.limits.nesting text = .success node) (number : Int) :
    (∃ content, (alone session.limits.depth session.environment node).complete =
        ((session.run text number).1.environment, .success (.text content)) ∧
      (session.run text number).2 = .ok content) ∨
    ∃ outcome raised, answer outcome = .error raised ∧
      (forall printed nodes,
        (program session.limits.depth printed (node :: nodes) session.environment).complete =
          (session.environment, outcome)) ∧
      (session.run text number).1.environment = session.environment ∧
      (session.run text number).2 = .error raised := by
  have single : session.reading text = .success [node] := by
    rw [reading, if_pos interactive, reads]
    rfl
  rcases complete_alone session.limits.depth session.environment node with
    ⟨item, done⟩ | ⟨reason, fails⟩ | ⟨cause, stops⟩
  · have puts := putsText_of_reading single node List.mem_cons_self
    rcases puts.item done with ⟨content, rfl⟩
    have ends := complete_program_of_success done [] []
    rw [List.nil_append, ← List.map_singleton, complete_program_nil, List.flatten_singleton] at ends
    rcases run_of_nodes single number ends with ⟨environment, gives⟩
    exact .inl ⟨content, environment ▸ done, gives⟩
  · have ends := complete_program_of_failure fails
    rcases run_of_nodes single number (ends [] []) with ⟨environment, gives⟩
    exact .inr ⟨_, _, rfl, ends, environment, gives⟩
  · have ends := complete_program_of_fault stops
    rcases run_of_nodes single number (ends [] []) with ⟨environment, gives⟩
    exact .inr ⟨_, _, rfl, ends, environment, gives⟩

/-- A typed text that raises something has bound nothing. -/
theorem environment_run_of_error (interactive : session.interactive = true) {text : Text}
    {number : Int} {raised : Raised} (raises : (session.run text number).2 = .error raised) :
    (session.run text number).1.environment = session.environment := by
  cases reads : parseStatement session.limits.nesting text with
  | success node =>
      rcases run_typed interactive reads number with ⟨content, _, gives⟩ | ⟨_, _, _, _, same, _⟩
      · rw [gives] at raises
        cases raises
      · exact same
  | failure error => rw [environment_run, reading, if_pos interactive, reads]; rfl
  | fault cause => rw [environment_run, reading, if_pos interactive, reads]; rfl

/-!
## Texts one after the other
-/

/-- What is left of texts that were run one after the other. -/
structure Course where
  /-- The session that is left. -/
  session : Session
  /-- The outputs of the texts that raised nothing. -/
  outputs : List Text
  /-- What the first of the other texts has raised. -/
  raised : Option Raised

/-- Runs texts one after the other, each from its line on, until one raises
something. -/
def runEach (session : Session) : List (Text × Int) -> Course
  | [] => ⟨session, [], none⟩
  | line :: lines =>
      match session.run line.1 line.2 with
      | (left, .error raised) => ⟨left, [], some raised⟩
      | (left, .ok output) =>
          let course := left.runEach lines
          { course with outputs := output :: course.outputs }

/-- All the outputs, joined behind earlier ones, or what was raised in their place. -/
def Course.answer (course : Course) (earlier : List Text) : Except Raised Text :=
  match course.raised with
  | none => .ok (earlier ++ course.outputs).flatten
  | some raised => .error raised

section Steps

variable {line : Text × Int} {lines : List (Text × Int)}

theorem runEach_cons_of_error {raised : Raised}
    (raises : (session.run line.1 line.2).2 = .error raised) :
    session.runEach (line :: lines) = ⟨(session.run line.1 line.2).1, [], some raised⟩ := by
  rw [runEach, ← Prod.eta (session.run line.1 line.2), raises]

theorem runEach_cons_of_ok {output : Text}
    (gives : (session.run line.1 line.2).2 = .ok output) :
    session.runEach (line :: lines) =
      { (session.run line.1 line.2).1.runEach lines with
        outputs := output :: ((session.run line.1 line.2).1.runEach lines).outputs } := by
  rw [runEach, ← Prod.eta (session.run line.1 line.2), gives]

end Steps

/-- The texts that raised nothing have given one output each. -/
theorem runEach_of_none {lines : List (Text × Int)}
    (quiet : (session.runEach lines).raised = none) :
    (session.runEach lines).outputs.length = lines.length ∧
      (session.runEach lines).session = session.afterTexts lines := by
  induction lines generalizing session with
  | nil => exact ⟨rfl, rfl⟩
  | cons line lines inductionHypothesis =>
      cases ends : (session.run line.1 line.2).2 with
      | error raised => rw [runEach_cons_of_error ends] at quiet; cases quiet
      | ok output =>
          rw [runEach_cons_of_ok ends] at quiet ⊢
          rcases inductionHypothesis quiet with ⟨lengths, same⟩
          exact ⟨congrArg (· + 1) lengths, same⟩

/-- Where something was raised, the texts in front have raised nothing. -/
theorem runEach_of_some {lines : List (Text × Int)} {raised : Raised}
    (raises : (session.runEach lines).raised = some raised) :
    ∃ done line rest, lines = done ++ line :: rest ∧ (session.runEach done).raised = none ∧
      ((session.afterTexts done).run line.1 line.2).2 = .error raised ∧
      (session.runEach lines).session = ((session.afterTexts done).run line.1 line.2).1 := by
  induction lines generalizing session with
  | nil => cases raises
  | cons line lines inductionHypothesis =>
      cases ends : (session.run line.1 line.2).2 with
      | error first =>
          rw [runEach_cons_of_error ends] at raises ⊢
          cases raises
          exact ⟨[], line, lines, rfl, rfl, ends, rfl⟩
      | ok output =>
          rw [runEach_cons_of_ok ends] at raises ⊢
          rcases inductionHypothesis raises with ⟨done, next, rest, rfl, quiet, stops, left⟩
          refine ⟨line :: done, next, rest, rfl, ?_, stops, left⟩
          rw [runEach_cons_of_ok ends]
          exact quiet

theorem sameKind_afterTexts (session : Session) (lines : List (Text × Int)) :
    session.SameKind (session.afterTexts lines) := by
  induction lines generalizing session with
  | nil => exact .refl session
  | cons line lines inductionHypothesis =>
      exact (sameKind_run session line.1 line.2).trans (inductionHypothesis _)

/-- The lines are read as statements, each on its own. -/
def ReadsEach (nesting : Nat) (lines : List (Text × Int)) (nodes : List Node) : Prop :=
  List.Forall₂ (fun line node => parseStatement nesting line.1 = .success node) lines nodes

/-- The program of all lines does what the lines do one after the other.  The
induction is on the lines, with the texts that were put out before. -/
theorem complete_program_eq_runEach {limits : Limits} {lines : List (Text × Int)}
    {nodes : List Node} (reads : ReadsEach limits.nesting lines nodes)
    (within : session.limits = limits) (interactive : session.interactive = true)
    (earlier : List Text) :
    (program limits.depth (earlier.map .text) nodes session.environment).complete.1 =
        (session.runEach lines).session.environment ∧
      answer (program limits.depth (earlier.map .text) nodes session.environment).complete.2 =
        (session.runEach lines).answer earlier := by
  induction reads generalizing session earlier with
  | nil =>
      rw [complete_program_nil]
      exact ⟨rfl, by rw [Course.answer, runEach, List.append_nil]; rfl⟩
  | @cons line node lines nodes isRead others inductionHypothesis =>
      subst within
      have sameKind := sameKind_run session line.1 line.2
      rcases run_typed interactive isRead line.2 with
        ⟨content, done, gives⟩ | ⟨outcome, raised, isRaised, stops, same, gives⟩
      · have rest := inductionHypothesis sameKind.limits
          (sameKind.interactive.trans interactive) (earlier ++ [content])
        rw [complete_program_of_success done, runEach_cons_of_ok gives]
        rw [List.map_append, List.map_singleton] at rest
        refine ⟨rest.1, rest.2.trans ?_⟩
        simp only [Course.answer, List.append_assoc, List.singleton_append]
      · rw [stops, runEach_cons_of_error gives]
        exact ⟨same.symm, isRaised⟩

/-!
## A file and a terminal
-/

/-- What it means that a text, run at once, does the same as its lines in a session
that is given one after the other. -/
structure RunsAsTyped (nodes : List Node) (joined : Session × Except Raised Text)
    (session : Session) (lines : List (Text × Int)) : Prop where
  /-- The bindings are the same in the end, however that comes about. -/
  environment : joined.1.environment = (session.runEach lines).session.environment
  /-- Where no line raises anything, the output is that of all lines. -/
  completed : (session.runEach lines).raised = none ->
    (session.runEach lines).outputs.length = lines.length ∧
    joined.2 = .ok (session.runEach lines).outputs.flatten
  /-- What the first line to do so raises is raised, and the bindings are those made
  by the lines in front of it. -/
  stopped : forall raised, (session.runEach lines).raised = some raised ->
    joined.2 = .error raised ∧
    ∃ done line rest, lines = done ++ line :: rest ∧ (session.runEach done).raised = none ∧
      ((session.afterTexts done).run line.1 line.2).2 = .error raised ∧
      joined.1.environment = (session.afterTexts done).environment
  /-- It is the notice about a failed evaluation or one of three faults. -/
  raises : forall raised, (session.runEach lines).raised = some raised ->
    (∃ failure : Failure, raised = .notice (Notice.bare failure.message false false)) ∨
    ∃ cause, raised = .fault cause ∧
      (cause = .tooDeep ∨ cause = .infiniteBound ∨ cause = .undefinedBound)
  /-- With enough room for each line, it is a fault exactly where the lines come upon a
  range without finite bounds. -/
  faults : (forall node, node ∈ nodes -> node.height + 2 ≤ session.limits.depth) ->
    forall cause, ((session.runEach lines).raised = some (.fault cause) ↔
      ProgramMeets session.limits.depth session.environment nodes cause)

theorem ReadsEach.parseProgram {nesting : Nat} {lines : List (Text × Int)} {nodes : List Node}
    (reads : ReadsEach nesting lines nodes) (nonempty : lines ≠ []) :
    Grammar.parseProgram nesting (Text.join ['\n'] (lines.map Prod.fst)) =
      .success nodes := by
  refine parseProgram_join ?_ (List.forall₂_map_left_iff.mpr reads)
  rwa [ne_eq, List.map_eq_nil_iff]

/-- Any two sessions with the same limits do, one of each kind, if they have bound the same
normal forms. -/
theorem runsAsTyped {file : Session} {lines : List (Text × Int)} {nodes : List Node}
    (reads : ReadsEach session.limits.nesting lines nodes) (nonempty : lines ≠ [])
    (isFile : file.interactive = false) (interactive : session.interactive = true)
    (within : file.limits = session.limits)
    (same : file.environment = session.environment) (normal : session.environment.IsNormal)
    (number : Int) :
    RunsAsTyped nodes (file.run (Text.join ['\n'] (lines.map Prod.fst)) number) session lines := by
  have together := reads.parseProgram nonempty
  have readTogether : file.reading (Text.join ['\n'] (lines.map Prod.fst)) =
      .success nodes := by
    rwa [reading, isFile, if_neg Bool.false_ne_true, within]
  rcases run_of_nodes readTogether number rfl with ⟨environment, gives⟩
  rcases complete_program_eq_runEach reads rfl interactive [] with ⟨left, answers⟩
  rw [List.map_nil, ← same, ← within] at left answers
  rw [left] at environment
  rw [answers] at gives
  have raising : forall raised, (session.runEach lines).raised = some raised ->
      (session.runEach lines).answer [] = .error raised := by
    intro raised isRaised
    rw [Course.answer, isRaised]
  have faulty : forall cause, (session.runEach lines).raised = some (.fault cause) ↔
      (program session.limits.depth [] nodes session.environment).complete.2 =
        .fault cause := by
    intro cause
    rw [← answer_eq_fault_iff, ← same, ← within, answers, Course.answer]
    cases (session.runEach lines).raised <;> simp
  constructor
  · exact environment
  · intro quiet
    rw [gives, Course.answer, quiet, List.nil_append]
    exact ⟨(runEach_of_none quiet).1, rfl⟩
  · intro raised isRaised
    rcases runEach_of_some isRaised with ⟨done, line, rest, split, quiet, raises, last⟩
    refine ⟨gives.trans (raising raised isRaised), done, line, rest, split, quiet, raises, ?_⟩
    have unchanged := environment_run_of_error
      ((sameKind_afterTexts session done).interactive.trans interactive) raises
    rw [environment, last, unchanged]
  · intro raised isRaised
    rcases answer_eq_error (answers.trans (raising raised isRaised)) with
      ⟨failure, rfl⟩ | ⟨cause, stops, rfl⟩
    · exact .inl ⟨failure, rfl⟩
    · rw [same, within] at stops
      exact .inr ⟨cause, rfl, program_fault_cases normal (formed_of_parseProgram together) stops⟩
  · intro enough cause
    rw [faulty]
    exact program_eq_fault_iff_meets normal (formed_of_parseProgram together) enough cause

/-- Lines that are read as statements one by one are read as the program of these
statements.  A session that runs them at once and a session in which they are typed
one after the other come to the same. -/
theorem joined_runs_as_typed (handler other : Handler) (path name : Text) (limits : Limits)
    (number : Int) {lines : List (Text × Int)} {nodes : List Node} (nonempty : lines ≠ [])
    (reads : ReadsEach limits.nesting lines nodes) :
    parseProgram limits.nesting (Text.join ['\n'] (lines.map Prod.fst)) = .success nodes ∧
    RunsAsTyped nodes
      ((start handler path false limits).1.run (Text.join ['\n'] (lines.map Prod.fst)) number)
      (start other name true limits).1 lines := by
  refine ⟨reads.parseProgram nonempty, ?_⟩
  have within := limits_start other name true limits
  apply runsAsTyped (within.symm ▸ reads) nonempty
  · exact interactive_start handler path false limits
  · exact interactive_start other name true limits
  · rw [limits_start, within]
  · rw [environment_start, environment_start]
  · rw [environment_start]
    exact Environment.isNormal_nil

theorem exists_readsEach {nesting : Nat} {lines : List (Text × Int)}
    (each : forall line, line ∈ lines -> (parseStatement nesting line.1).isSuccess = true) :
    ∃ nodes, ReadsEach nesting lines nodes := by
  induction lines with
  | nil => exact ⟨[], .nil⟩
  | cons line lines inductionHypothesis =>
      rcases inductionHypothesis fun other member =>
        each other (List.mem_cons_of_mem line member) with ⟨nodes, reads⟩
      rcases Outcome.exists_of_isSuccess (each line List.mem_cons_self) with ⟨node, found⟩
      exact ⟨node :: nodes, .cons found reads⟩

/-- Three lines, the last of which fails. -/
def unfinished : List (Text × Int) :=
  [("var x = 2".toList, 1), ("out x + 1".toList, 2), ("out y".toList, 3)]

/-- A session that reads a file. -/
def ofFile : Session := (start (Handler.new true false) "program.sc".toList false .standard).1

/-- A session at a terminal. -/
def ofTerminal : Session := (start (Handler.new true false) terminalName true .standard).1

theorem joined_runs_as_typed_unfinished :
    unfinished ≠ [] ∧
    (ofTerminal.runEach unfinished).outputs = [[], ['3']] ∧
    (ofTerminal.runEach unfinished).raised =
      some (.notice (Notice.bare "unknown variable 'y'".toList false false)) ∧
    ∃ nodes, ReadsEach Limits.standard.nesting unfinished nodes ∧
      parseProgram Limits.standard.nesting (Text.join ['\n'] (unfinished.map Prod.fst)) =
        .success nodes ∧
      RunsAsTyped nodes (ofFile.run (Text.join ['\n'] (unfinished.map Prod.fst)) 1)
        ofTerminal unfinished ∧
      (forall node, node ∈ nodes -> node.height + 2 ≤ Limits.standard.depth) ∧
      (ofFile.run (Text.join ['\n'] (unfinished.map Prod.fst)) 1).2 =
        .error (.notice (Notice.bare "unknown variable 'y'".toList false false)) ∧
      forall cause, ¬ ProgramMeets Limits.standard.depth [] nodes cause := by
  have nonempty : unfinished ≠ [] := by decide
  have isRaised : (ofTerminal.runEach unfinished).raised =
      some (.notice (Notice.bare "unknown variable 'y'".toList false false)) := by decide +kernel
  have readable : forall line, line ∈ unfinished ->
      (parseStatement Limits.standard.nesting line.1).isSuccess = true := by decide +kernel
  rcases exists_readsEach readable with ⟨nodes, reads⟩
  rcases joined_runs_as_typed (Handler.new true false) (Handler.new true false)
    "program.sc".toList terminalName .standard 1 nonempty reads with ⟨together, same⟩
  have low : ((parseProgram Limits.standard.nesting
      (Text.join ['\n'] (unfinished.map Prod.fst))).map
      fun nodes => nodes.all fun node => decide (node.height + 2 ≤ Limits.standard.depth)) =
        .success true := by decide +kernel
  simp only [together, Outcome.map_success, Outcome.success.injEq, List.all_eq_true,
    decide_eq_true_eq] at low
  refine ⟨nonempty, by decide +kernel, isRaised, nodes, reads, together, same, low,
    (same.stopped _ isRaised).1, ?_⟩
  intro cause meets
  have fault := (same.faults low cause).mpr meets
  rw [show (start (Handler.new true false) terminalName true .standard).1 = ofTerminal from rfl,
    isRaised] at fault
  cases fault

/-- Neither mode gives an output or a notice for a range whose bound is too great to
be finite. -/
theorem greatRange_neither_output_nor_notice :
    (parseStatement Limits.standard.nesting greatRangeText).isSuccess = true ∧
    (ofFile.run greatRangeText 1).2 = .error (.fault .infiniteBound) ∧
    (ofTerminal.run greatRangeText 1).2 = .error (.fault .infiniteBound) ∧
    ¬ forall (lines : List (Text × Int)) (nodes : List Node), lines ≠ [] ->
      ReadsEach Limits.standard.nesting lines nodes ->
      (∃ output, (ofFile.run (Text.join ['\n'] (lines.map Prod.fst)) 1).2 = .ok output) ∨
      ∃ notice, (ofFile.run (Text.join ['\n'] (lines.map Prod.fst)) 1).2 =
        .error (.notice notice) := by
  have readable : (parseStatement Limits.standard.nesting greatRangeText).isSuccess = true := by
    decide +kernel
  have stops : (ofFile.run greatRangeText 1).2 = .error (.fault .infiniteBound) := by
    decide +kernel
  refine ⟨readable, stops, by decide +kernel, ?_⟩
  intro always
  rcases @exists_readsEach Limits.standard.nesting [(greatRangeText, 1)] (by
    intro line member
    rw [List.mem_singleton.mp member]
    exact readable) with ⟨nodes, reads⟩
  rcases always _ nodes (List.cons_ne_nil _ _) reads with ⟨output, gives⟩ | ⟨notice, raises⟩
  · cases stops.symm.trans gives
  · cases stops.symm.trans raises

end Session

end SequenceCalculator
