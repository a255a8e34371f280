import SequenceCalculator.Proofs.Evaluation.ProgramFaults
import SequenceCalculator.Proofs.Report.Messages
import SequenceCalculator.Proofs.Session.Bindings
import SequenceCalculator.Shell.Basic

namespace SequenceCalculator

/-!
# The shell between two lines

Whatever was typed before, a shell that waits for a line has no output left to
take, no line in its handler that is being worked on, and a handler that does not
end the program.  From such a state each line is described completely: a line that
leaves a bracket open is kept, a blank one is dropped, and every other one is a
statement on the bindings of the shell.  Its output is printed, and so is a report
of anything that goes wrong with it.

Two kinds of faults are then passed on although they were reported: that of a
numeral without a value and that of a range without finite bounds.  They leave
the shell as ready for the next line as everything else does.
-/

open Evaluation Grammar

/-- A handler at the terminal that has no line to report about. -/
def Handler.idle (colored : Bool) : Handler :=
  ⟨false, colored, [(Session.terminalName, {})]⟩

/-- A handler at the terminal while a line is being worked on. -/
def Handler.working (colored : Bool) (line : Text) (number : Int) : Handler :=
  ⟨false, colored, [(Session.terminalName, ⟨some line, some number⟩)]⟩

/-- A session at the terminal that waits for a line. -/
def Session.atTerminal (limits : Limits) (colored : Bool) (environment : Environment)
    (journal : List JournalEntry) : Session where
  handler := .idle colored
  path := terminalName
  interactive := true
  limits := limits
  environment := environment
  results := []
  journal := journal

namespace Shell

variable {limits : Limits}

/-- What a statement that was typed on a line comes to: the bindings behind it, what
is printed and what is passed on. -/
inductive Answers (limits : Limits) (colored : Bool) (environment : Environment) (text : Text)
    (number : Int) : Environment -> Text -> Except Raised Unit -> Prop where
  | output {node : Node} {after : Environment} {output : Text}
      (reads : parseStatement limits.nesting text = .success node)
      (ends : (program limits.depth [] [node] environment).complete = (after, .success output)) :
      Answers limits colored environment text number after (shown output) (.ok ())
  | failure {node : Node} {after : Environment} {reason : Failure}
      (reads : parseStatement limits.nesting text = .success node)
      (ends : (program limits.depth [] [node] environment).complete = (after, .failure reason)) :
      Answers limits colored environment text number after
        ((Handler.working colored text number).report (.bare reason.message false false)) (.ok ())
  | refusal {error : SyntaxError} {location : Location}
      (refuses : parseStatement limits.nesting text = .failure error)
      (located : location = Location.ofOffset text error.offset) :
      Answers limits colored environment text number environment
        ((Handler.working colored location.line (number + location.index)).report
          (.ofLocation colored location error.fragment)) (.ok ())
  | unreadDepth (stops : parseStatement limits.nesting text = .fault .tooDeep) :
      Answers limits colored environment text number environment
        ((Handler.idle colored).report (.bare Handler.depthMessage true false)) (.ok ())
  | depth {node : Node} {after : Environment}
      (reads : parseStatement limits.nesting text = .success node)
      (ends : (program limits.depth [] [node] environment).complete = (after, .fault .tooDeep)) :
      Answers limits colored environment text number after
        ((Handler.working colored text number).report (.bare Handler.depthMessage true false))
        (.ok ())
  | illegible {numeral : Illegible}
      (stands : StandsBehind (Awaits (Grammar.Statement limits.nesting)) numeral text)
      (stops : parseStatement limits.nesting text = .fault (.notDecimal numeral.text)) :
      Answers limits colored environment text number environment
        ((Handler.idle colored).report
          (.bare (Handler.faultMessage (.notDecimal numeral.text)) true true))
        (.error (.fault (.notDecimal numeral.text)))
  | unbounded {node : Node} {after : Environment} {cause : Fault}
      (reads : parseStatement limits.nesting text = .success node)
      (ends : (program limits.depth [] [node] environment).complete = (after, .fault cause))
      (notFinite : cause = .infiniteBound ∨ cause = .undefinedBound)
      (meets : node.height + 2 ≤ limits.depth -> StatementMeets environment node cause) :
      Answers limits colored environment text number after
        ((Handler.working colored text number).report
          (.bare (Handler.faultMessage cause) true true)) (.error (.fault cause))

/-- What becomes of a shell that takes in a line. -/
inductive Takes (limits : Limits) (colored : Bool) (shell : Shell) (line : Text) :
    Shell × Text × Except Raised Unit -> Prop where
  | continued {text : Text} (unfinished : preprocessLine (shell.pending ++ line) = (text, true)) :
      Takes limits colored shell line
        (⟨shell.session, text ++ [' '], shell.number + 1, secondaryPrompt⟩, [], .ok ())
  | blank (complete : preprocessLine (shell.pending ++ line) = ([], false)) :
      Takes limits colored shell line
        (⟨shell.session, [], shell.number + 1, primaryPrompt⟩, [], .ok ())
  | statement {text printed : Text} {after : Environment} {result : Except Raised Unit}
      (journal : List JournalEntry)
      (complete : preprocessLine (shell.pending ++ line) = (text, false)) (nonempty : text ≠ [])
      (answers : Answers limits colored shell.session.environment text (shell.number + 1) after
        printed result) :
      Takes limits colored shell line
        (⟨.atTerminal limits colored after journal, [], shell.number + 1, primaryPrompt⟩, printed,
          result)

/-!
## What is raised by a statement
-/

/-- A single statement ends with a fault exactly when it does so on its own. -/
theorem program_single_eq_fault {environment : Environment} {node : Node} {cause : Fault}
    (formed : FormedStatement node)
    (stops : (program limits.depth [] [node] environment).complete.2 = .fault cause) :
    (alone limits.depth environment node).complete.2 = .fault cause := by
  have texts : forall other, other ∈ [node] -> _ := fun other member =>
    putsText_of_formed (List.mem_singleton.mp member ▸ formed)
  rcases (program_eq_fault_iff limits.depth environment texts cause).mp stops with
    ⟨done, other, rest, items, last, count, split, completes, stopsThere⟩
  cases done with
  | nil =>
      cases split
      cases completes
      exact stopsThere
  | cons first others =>
      have lengths := congrArg List.length split
      simp at lengths

theorem reading_atTerminal (colored : Bool) (environment : Environment)
    (journal : List JournalEntry) (text : Text) :
    (Session.atTerminal limits colored environment journal).reading text =
      (parseStatement limits.nesting text).map fun node => [node] :=
  rfl

/-- Something that was raised by work on a statement leaves the handler without a
line, once it is settled. -/
def Raises (limits : Limits) (colored : Bool) (environment : Environment) (text : Text)
    (number : Int) (work : Session × Except Raised Text) : Prop :=
  ∃ handler raised after entries printed result,
    work =
      ({ Session.atTerminal limits colored after entries with handler := handler },
        .error raised) ∧
    handler.settle raised = (.idle colored, printed, result) ∧
    Answers limits colored environment text number after printed result

section Work

variable (colored : Bool) (environment : Environment) (journal : List JournalEntry) {text : Text}
  (number : Int)

theorem raises_unread {error : SyntaxError}
    (refuses : parseStatement limits.nesting text = .failure error) :
    Raises limits colored environment text number
      ((Session.atTerminal limits colored environment journal).run text number) := by
  have fails :
      (Session.atTerminal limits colored environment journal).reading text = .failure error := by
    rw [reading_atTerminal, refuses]
    rfl
  have parsed : (Session.atTerminal limits colored environment journal).parse text number = _ :=
    Session.parse_of_failure number fails
  rw [Session.raising_of_ofDraft (Notice.ofDraft_location colored _ error.fragment)] at parsed
  rw [Session.run_of_unread number parsed]
  refine ⟨_, _, environment, journal, _, _, rfl, Handler.settle_notice rfl _, ?_⟩
  exact .refusal refuses rfl

theorem raises_unreadFault {cause : Fault}
    (stops : parseStatement limits.nesting text = .fault cause) :
    Raises limits colored environment text number
      ((Session.atTerminal limits colored environment journal).run text number) := by
  have breaks :
      (Session.atTerminal limits colored environment journal).reading text = .fault cause := by
    rw [reading_atTerminal, stops]
    rfl
  have parsed : (Session.atTerminal limits colored environment journal).parse text number = _ :=
    Session.parse_of_fault number breaks
  rw [Session.run_of_unread number parsed]
  rcases parseStatement_eq_fault stops with ⟨rfl, _⟩ | ⟨numeral, stands, rfl⟩
  · exact ⟨_, _, environment, journal, _, _, rfl, Handler.settle_tooDeep rfl, .unreadDepth stops⟩
  · refine ⟨_, _, environment, journal, _, _, rfl,
      Handler.settle_fault rfl (by rintro ⟨⟩)
        (Handler.braceless_notDecimal numeral), ?_⟩
    exact .illegible stands stops

/-- A statement that was read gives an output, or it raises something. -/
theorem runs_or_raises (normal : environment.IsNormal) {node : Node}
    (reads : parseStatement limits.nesting text = .success node) :
    (∃ after output entries,
      (Session.atTerminal limits colored environment journal).run text number =
        ({ Session.atTerminal limits colored after entries with results := [output] }, .ok output) ∧
      Answers limits colored environment text number after (shown output) (.ok ())) ∨
    Raises limits colored environment text number
      ((Session.atTerminal limits colored environment journal).run text number) := by
  have isRead :
      (Session.atTerminal limits colored environment journal).reading text = .success [node] := by
    rw [reading_atTerminal, reads]
    rfl
  have formed := formed_of_parseStatement reads
  rcases ends : (program limits.depth [] [node] environment).complete with ⟨after, outcome⟩
  have running :
      ∃ entries, (Session.atTerminal limits colored environment journal).run text number = _ :=
    Session.run_of_reading number isRead ends
  rcases running with ⟨entries, runs⟩
  rw [runs]
  cases outcome with
  | success output => exact .inl ⟨after, output, entries, rfl, .output reads ends⟩
  | failure reason =>
      refine .inr ⟨.working colored text number, _, after, entries, _, _, ?_,
        Handler.settle_notice rfl (.bare reason.message false false), .failure reads ends⟩
      exact congrArg _ (Session.raising_of_ofDraft (Notice.ofDraft_escape _ _ _ _))
  | fault cause =>
      have stops : (program limits.depth [] [node] environment).complete.2 = .fault cause := by
        rw [ends]
      have each : forall other, other ∈ [node] -> FormedStatement other := by
        intro other member
        rwa [List.mem_singleton.mp member]
      rcases program_fault_cases normal each stops with rfl | notFinite
      · exact .inr ⟨_, _, after, entries, _, _, rfl, Handler.settle_tooDeep rfl, .depth reads ends⟩
      · refine .inr ⟨_, _, after, entries, _, _, rfl,
          Handler.settle_fault rfl (Handler.ne_tooDeep_of_unbounded notFinite)
            (Handler.braceless_unbounded notFinite),
          .unbounded reads ends notFinite fun enough => ?_⟩
        exact (alone_eq_fault_iff normal formed enough cause).mp
          (program_single_eq_fault formed stops)

end Work

/-!
## Lines
-/

section Lines

variable {shell : Shell} {line text : Text}

theorem enter_of_unfinished (unfinished : preprocessLine (shell.pending ++ line) = (text, true)) :
    shell.enter line =
      (⟨shell.session, text ++ [' '], shell.number + 1, secondaryPrompt⟩, [], .ok ()) := by
  simp [enter, unfinished]

theorem enter_of_blank (complete : preprocessLine (shell.pending ++ line) = ([], false)) :
    shell.enter line = (⟨shell.session, [], shell.number + 1, primaryPrompt⟩, [], .ok ()) := by
  simp [enter, complete]

/-- What is printed and what is passed on, once the handler has dealt with the work on a
statement. -/
def answer : Session × Text × Except Raised (Option Text) -> Text × Except Raised Unit
  | (_, report, .ok output) => (report ++ shown (output.getD []), .ok ())
  | (_, report, .error raised) => (report, .error raised)

theorem enter_of_statement (complete : preprocessLine (shell.pending ++ line) = (text, false))
    (nonempty : text ≠ []) :
    shell.enter line =
      (⟨(Session.guard (perform shell.session text (shell.number + 1))).1, [], shell.number + 1,
          primaryPrompt⟩,
        answer (Session.guard (perform shell.session text (shell.number + 1)))) := by
  have notEmpty : text.isEmpty = false := by simpa using nonempty
  rcases worked : Session.guard (perform shell.session text (shell.number + 1)) with
    ⟨session, report, result⟩
  cases result <;> simp [enter, complete, notEmpty, worked, answer]

end Lines

/-- A shell that waits for a line, or for the rest of one. -/
def Ready (limits : Limits) (colored : Bool) (shell : Shell) : Prop :=
  ∃ environment journal, environment.IsNormal ∧
    shell.session = .atTerminal limits colored environment journal

theorem Answers.isNormal {colored : Bool} {environment after : Environment} {text printed : Text}
    {number : Int} {result : Except Raised Unit} (normal : environment.IsNormal)
    (answers : Answers limits colored environment text number after printed result) :
    after.IsNormal := by
  have completed {node : Node} {outcome : Outcome Failure Text}
      (ends : (program limits.depth [] [node] environment).complete = (after, outcome)) :
      after.IsNormal := by
    have isNormal := isNormal_program_complete limits.depth [node] normal
    rwa [ends] at isNormal
  cases answers with
  | output reads ends => exact completed ends
  | failure reads ends => exact completed ends
  | refusal refuses located => exact normal
  | unreadDepth stops => exact normal
  | depth reads ends => exact completed ends
  | illegible stands stops => exact normal
  | unbounded reads ends notFinite meets => exact completed ends

theorem perform_of_error {session left : Session} {line : Text} {number : Int} {raised : Raised}
    (runs : (session.note "shell" (s!"line {number}: ".toList ++ line)).run line number =
      (left, .error raised)) : perform session line number = (left, .error raised) := by
  simp only [perform, runs]

theorem perform_of_success {session left : Session} {line output : Text} {number : Int}
    (runs : (session.note "shell" (s!"line {number}: ".toList ++ line)).run line number =
      (left, .ok output)) : perform session line number = left.pop := by
  simp only [perform, runs]

/-- A statement is performed without a loss: its output is taken at once. -/
theorem performs_or_raises (colored : Bool) {environment : Environment}
    (journal : List JournalEntry) (text : Text) (number : Int) (normal : environment.IsNormal) :
    (∃ after output entries,
      perform (.atTerminal limits colored environment journal) text number =
        (.atTerminal limits colored after entries, .ok output) ∧
      Answers limits colored environment text number after (shown output) (.ok ())) ∨
    Raises limits colored environment text number
      (perform (.atTerminal limits colored environment journal) text number) := by
  obtain ⟨noted, notes⟩ : ∃ noted,
      (Session.atTerminal limits colored environment journal).note "shell"
          (s!"line {number}: ".toList ++ text) =
        .atTerminal limits colored environment noted := ⟨_, rfl⟩
  have passed (raises : Raises limits colored environment text number
      ((Session.atTerminal limits colored environment noted).run text number)) :
      Raises limits colored environment text number
        (perform (.atTerminal limits colored environment journal) text number) := by
    rcases raises with ⟨handler, raised, after, entries, printed, result, runs, settles, answers⟩
    rw [← notes] at runs
    exact ⟨handler, raised, after, entries, printed, result, perform_of_error runs, settles,
      answers⟩
  cases reads : parseStatement limits.nesting text with
  | success node =>
      rcases runs_or_raises colored environment noted number normal reads with
        ⟨after, output, entries, runs, answers⟩ | raises
      · rw [← notes] at runs
        exact .inl ⟨after, output, entries, perform_of_success runs, answers⟩
      · exact .inr (passed raises)
  | failure error => exact .inr (passed (raises_unread colored environment noted number reads))
  | fault cause => exact .inr (passed (raises_unreadFault colored environment noted number reads))

/-- The one step: a shell that is ready takes in any line. -/
theorem Ready.takes {colored : Bool} {shell : Shell} (ready : shell.Ready limits colored)
    (line : Text) :
    Takes limits colored shell line (shell.enter line) := by
  rcases ready with ⟨environment, journal, normal, waits⟩
  rcases split : preprocessLine (shell.pending ++ line) with ⟨text, unfinished⟩
  cases unfinished with
  | true =>
      rw [enter_of_unfinished split]
      exact .continued split
  | false =>
      by_cases isBlank : text = []
      · subst isBlank
        rw [enter_of_blank split]
        exact .blank split
      · have bindings : shell.session.environment = environment := by rw [waits]; rfl
        rw [enter_of_statement split isBlank, waits]
        rcases performs_or_raises colored journal text (shell.number + 1) normal with
          ⟨after, output, entries, performs, answers⟩ |
          ⟨handler, raised, after, entries, printed, result, performs, settles, answers⟩
        · rw [performs]
          exact .statement entries split isBlank (bindings ▸ answers)
        · have guarded : Session.guard
              (perform (.atTerminal limits colored environment journal) text (shell.number + 1)) =
              (.atTerminal limits colored after entries, printed, result.map fun _ => none) := by
            rw [performs]
            simp only [Session.guard, settles]
            rfl
          have answered : answer (.atTerminal limits colored after entries, printed,
              result.map fun _ => none) = (printed, result) := by
            cases result <;> simp [answer, Except.map, shown]
          rw [guarded, answered]
          exact .statement entries split isBlank (bindings ▸ answers)

theorem Takes.ready {colored : Bool} {shell next : Shell} {line printed : Text}
    {result : Except Raised Unit} (ready : shell.Ready limits colored)
    (takes : Takes limits colored shell line (next, printed, result)) :
    next.Ready limits colored := by
  rcases ready with ⟨environment, journal, normal, waits⟩
  cases takes with
  | continued unfinished => exact ⟨environment, journal, normal, waits⟩
  | blank complete => exact ⟨environment, journal, normal, waits⟩
  | statement entries complete nonempty answers =>
      rw [waits] at answers
      exact ⟨_, entries, answers.isNormal normal, rfl⟩

/-- The shell after some lines, whatever was passed on. -/
def after (shell : Shell) (lines : List Text) : Shell :=
  lines.foldl (fun shell line => (shell.enter line).1) shell

/-- A shell on a new session at the terminal. -/
def fresh (fatal colored : Bool) (limits : Limits) : Shell :=
  new (Session.start (.new fatal colored) Session.terminalName true limits).1

theorem ready_fresh (fatal colored : Bool) (limits : Limits) :
    (fresh fatal colored limits).Ready limits colored :=
  ⟨[], [], Environment.isNormal_nil, rfl⟩

theorem Ready.after {colored : Bool} {shell : Shell} (ready : shell.Ready limits colored)
    (lines : List Text) : (shell.after lines).Ready limits colored := by
  induction lines generalizing shell with
  | nil => exact ready
  | cons line lines inductionHypothesis =>
      exact inductionHypothesis ((ready.takes line).ready ready)

/-- A statement that ends in a fault which nobody has foreseen. -/
inductive Unforeseen (limits : Limits) (environment : Environment) (text : Text) :
    Fault -> Prop where
  | illegible {numeral : Illegible}
      (stands : StandsBehind (Awaits (Grammar.Statement limits.nesting)) numeral text)
      (stops : parseStatement limits.nesting text = .fault (.notDecimal numeral.text)) :
      Unforeseen limits environment text (.notDecimal numeral.text)
  | unbounded {node : Node} {cause : Fault}
      (reads : parseStatement limits.nesting text = .success node)
      (stops : (program limits.depth [] [node] environment).complete.2 = .fault cause)
      (notFinite : cause = .infiniteBound ∨ cause = .undefinedBound)
      (meets : node.height + 2 ≤ limits.depth -> StatementMeets environment node cause) :
      Unforeseen limits environment text cause

/-- The fault that reading or running a statement ends with, if there is one. -/
def stop? (limits : Limits) (environment : Environment) (text : Text) : Option Fault :=
  match parseStatement limits.nesting text with
  | .success node =>
      match (program limits.depth [] [node] environment).complete.2 with
      | .fault cause => some cause
      | _ => none
  | .failure _ => none
  | .fault cause => some cause

theorem Unforeseen.stop?_eq {environment : Environment} {text : Text} {cause : Fault}
    (unforeseen : Unforeseen limits environment text cause) :
    stop? limits environment text = some cause ∧ cause ≠ .tooDeep := by
  cases unforeseen with
  | illegible stands stops => exact ⟨by simp only [stop?, stops], by rintro ⟨⟩⟩
  | unbounded reads stops notFinite meets =>
      exact ⟨by simp only [stop?, reads, stops], Handler.ne_tooDeep_of_unbounded notFinite⟩

/-- What is passed on is what nobody has foreseen. -/
theorem Answers.eq_error_iff {colored : Bool} {environment after : Environment}
    {text printed : Text} {number : Int} {result : Except Raised Unit}
    (answers : Answers limits colored environment text number after printed result)
    (raised : Raised) :
    result = .error raised ↔
      ∃ cause, raised = .fault cause ∧ Unforeseen limits environment text cause := by
  have settled {ended : Option Fault} (ends : stop? limits environment text = ended)
      (foreseen : ended = none ∨ ended = some .tooDeep) :
      ((.ok () : Except Raised Unit) = .error raised ↔
        ∃ cause, raised = .fault cause ∧ Unforeseen limits environment text cause) := by
    constructor
    · intro impossible
      cases impossible
    · rintro ⟨cause, _, unforeseen⟩
      rcases unforeseen.stop?_eq with ⟨stops, notDeep⟩
      rw [ends] at stops
      rcases foreseen with rfl | rfl
      · cases stops
      · cases stops
        exact absurd rfl notDeep
  have passed {cause : Fault} (unforeseen : Unforeseen limits environment text cause) :
      ((.error (.fault cause) : Except Raised Unit) = .error raised ↔
        ∃ cause, raised = .fault cause ∧ Unforeseen limits environment text cause) := by
    constructor
    · intro same
      cases same
      exact ⟨cause, rfl, unforeseen⟩
    · rintro ⟨other, rfl, alsoUnforeseen⟩
      have same := unforeseen.stop?_eq.1.symm.trans alsoUnforeseen.stop?_eq.1
      cases same
      rfl
  cases answers with
  | output reads ends => exact settled (by simp only [stop?, reads, ends]) (.inl rfl)
  | failure reads ends => exact settled (by simp only [stop?, reads, ends]) (.inl rfl)
  | refusal refuses located => exact settled (by simp only [stop?, refuses]) (.inl rfl)
  | unreadDepth stops => exact settled (by simp only [stop?, stops]) (.inr rfl)
  | depth reads ends => exact settled (by simp only [stop?, reads, ends]) (.inr rfl)
  | illegible stands stops => exact passed (.illegible stands stops)
  | unbounded reads ends notFinite meets =>
      exact passed (.unbounded reads (by rw [ends]) notFinite meets)

theorem Takes.eq_error_iff {colored : Bool} {shell next : Shell} {line printed : Text}
    {result : Except Raised Unit} (takes : Takes limits colored shell line (next, printed, result))
    (raised : Raised) :
    result = .error raised ↔ ∃ text cause, raised = .fault cause ∧
      preprocessLine (shell.pending ++ line) = (text, false) ∧ text ≠ [] ∧
      Unforeseen limits shell.session.environment text cause := by
  cases takes with
  | continued unfinished =>
      constructor
      · intro impossible
        cases impossible
      · rintro ⟨text, cause, _, complete, _⟩
        rw [unfinished] at complete
        cases complete
  | blank complete =>
      constructor
      · intro impossible
        cases impossible
      · rintro ⟨text, cause, _, alsoComplete, nonempty, _⟩
        rw [complete] at alsoComplete
        cases alsoComplete
        exact absurd rfl nonempty
  | @statement text _ _ _ journal complete nonempty answers =>
      rw [answers.eq_error_iff raised]
      constructor
      · rintro ⟨cause, rfl, unforeseen⟩
        exact ⟨text, cause, rfl, complete, nonempty, unforeseen⟩
      · rintro ⟨other, cause, rfl, alsoComplete, _, unforeseen⟩
        rw [complete] at alsoComplete
        cases alsoComplete
        exact ⟨cause, rfl, unforeseen⟩

/-- Whatever lines were typed before, a shell is ready for the next one: no output
waits to be taken, no line is left in the handler, and the bindings are normal
forms.  It takes the line in as described, so a statement that succeeds prints its
own output.  Nothing is passed on but the fault of a complete statement that holds
an illegible numeral where a numeral may stand or comes upon a range without
finite bounds. -/
theorem ready_for_every_line (fatal colored : Bool) (limits : Limits) (lines : List Text)
    (line : Text) :
    let shell := (fresh fatal colored limits).after lines
    shell.Ready limits colored ∧ Takes limits colored shell line (shell.enter line) ∧
    forall raised, (shell.enter line).2.2 = .error raised ↔
      ∃ text cause, raised = .fault cause ∧
        preprocessLine (shell.pending ++ line) = (text, false) ∧ text ≠ [] ∧
        Unforeseen limits shell.session.environment text cause := by
  intro shell
  have ready : shell.Ready limits colored := (ready_fresh fatal colored limits).after lines
  have takes := ready.takes line
  exact ⟨ready, takes, takes.eq_error_iff⟩

example : (((fresh true false .standard).after ["out \x7b1,".toList]).enter "2\x7d".toList).2 =
    ("\x7b1, 2\x7d\n".toList, .ok ()) := by
  decide +kernel

/-- Not every line is settled: a superscript is passed on as a fault, and so is a
range up to a numeral that is too great to be finite. -/
theorem superscript_passed_on :
    ((fresh true false .standard).enter "out ²".toList).2.2 = .error (.fault (.notDecimal ['²'])) ∧
    ((fresh true false .standard).enter greatRangeText).2.2 = .error (.fault .infiniteBound) ∧
    ¬ forall (lines : List Text) (line : Text),
      (((fresh true false .standard).after lines).enter line).2.2 = .ok () := by
  have superscript : ((fresh true false .standard).enter "out ²".toList).2.2 =
      .error (.fault (.notDecimal ['²'])) := by
    decide +kernel
  have greatRange : ((fresh true false .standard).enter greatRangeText).2.2 =
      .error (.fault .infiniteBound) := by
    decide +kernel
  refine ⟨superscript, greatRange, ?_⟩
  intro returns
  have settled := returns [] "out ²".toList
  rw [after, List.foldl_nil, superscript] at settled
  cases settled

end Shell

end SequenceCalculator
