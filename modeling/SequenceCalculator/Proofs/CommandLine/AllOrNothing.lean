import SequenceCalculator.CommandLine.Invocation
import SequenceCalculator.Proofs.Evaluation.ProgramFaults
import SequenceCalculator.Proofs.Report.Messages
import SequenceCalculator.Proofs.Session.Bindings

namespace SequenceCalculator
namespace CommandLine

/-!
# A file is run as a whole

A file succeeds when its bytes are a text, the text is a program, and the program
ends with an output.  Every other way in which reading and running it can end is
listed with the notice that is made of it.  A run of the file then prints either the
output and the end of a line, or the report of that notice.  What statements in front
of a failure have put out is not printed.

The name of the file must be one that the command line takes for a file: options and
the divider are not.
-/

open Evaluation Grammar

/-- A file with some bytes can be opened under a path. -/
structure Readable (surroundings : Surroundings) (path : Text) (bytes : List Nat) : Prop where
  /-- No path of a file has a zero character. -/
  named : path.contains '\x00' = false
  found : surroundings.files path = some bytes

/-- The text that bytes stand for, with line feeds at the ends of its lines. -/
def contents (bytes : List Nat) : Except Text.Undecodable Text :=
  (Text.decode bytes).map Text.unifyLineEnds

/-- The bytes hold a program that ends with an output. -/
def Succeeds (limits : Limits) (bytes : List Nat) (output : Text) : Prop :=
  ∃ text nodes after, contents bytes = .ok text ∧
    parseProgram limits.nesting text = .success nodes ∧
    (program limits.depth [] nodes []).complete = (after, .success output)

/-- The ways in which bytes do not hold a program that ends with an output.  Each has
a place, which is known when the text is no program, and a notice. -/
inductive Fails (limits : Limits) (colored : Bool) (bytes : List Nat) :
    Place -> Notice -> Prop where
  | undecodable {place : Text.Undecodable} (isNoText : contents bytes = .error place) :
      Fails limits colored bytes {} (.bare (Handler.faultMessage (.undecodable place)) true true)
  | refusal {text : Text} {error : SyntaxError} {location : Location}
      (isText : contents bytes = .ok text)
      (refuses : parseProgram limits.nesting text = .failure error)
      (located : location = Location.ofOffset text error.offset) :
      Fails limits colored bytes ⟨some location.line, some (1 + location.index)⟩
        (.ofLocation colored location error.fragment)
  | unreadDepth {text : Text} (isText : contents bytes = .ok text)
      (stops : parseProgram limits.nesting text = .fault .tooDeep) :
      Fails limits colored bytes {} (.bare Handler.depthMessage true false)
  | illegible {text : Text} {numeral : Illegible} (isText : contents bytes = .ok text)
      (stands : StandsBehind (Awaits (Grammar.Program limits.nesting)) numeral text)
      (stops : parseProgram limits.nesting text = .fault (.notDecimal numeral.text)) :
      Fails limits colored bytes {}
        (.bare (Handler.faultMessage (.notDecimal numeral.text)) true true)
  | failure {text : Text} {nodes : List Node} {after : Environment} {reason : Failure}
      (isText : contents bytes = .ok text)
      (reads : parseProgram limits.nesting text = .success nodes)
      (ends : (program limits.depth [] nodes []).complete = (after, .failure reason)) :
      Fails limits colored bytes {} (.bare reason.message false false)
  | depth {text : Text} {nodes : List Node} {after : Environment}
      (isText : contents bytes = .ok text)
      (reads : parseProgram limits.nesting text = .success nodes)
      (ends : (program limits.depth [] nodes []).complete = (after, .fault .tooDeep)) :
      Fails limits colored bytes {} (.bare Handler.depthMessage true false)
  | unbounded {text : Text} {nodes : List Node} {after : Environment} {cause : Fault}
      (isText : contents bytes = .ok text)
      (reads : parseProgram limits.nesting text = .success nodes)
      (ends : (program limits.depth [] nodes []).complete = (after, .fault cause))
      (notFinite : cause = .infiniteBound ∨ cause = .undefinedBound)
      (meets : (forall node, node ∈ nodes -> node.height + 2 ≤ limits.depth) ->
        ProgramMeets limits.depth [] nodes cause) :
      Fails limits colored bytes {} (.bare (Handler.faultMessage cause) true true)

/-- Bytes succeed, or they fail in one of the ways listed. -/
theorem succeeds_or_fails (limits : Limits) (colored : Bool) (bytes : List Nat) :
    (∃ output, Succeeds limits bytes output) ∨
      ∃ place notice, Fails limits colored bytes place notice := by
  cases isText : contents bytes with
  | error place => exact .inr ⟨_, _, .undecodable isText⟩
  | ok text =>
      cases reads : parseProgram limits.nesting text with
      | failure error => exact .inr ⟨_, _, .refusal isText reads rfl⟩
      | fault cause =>
          rcases parseProgram_eq_fault reads with ⟨rfl, _⟩ | ⟨numeral, stands, rfl⟩
          · exact .inr ⟨_, _, .unreadDepth isText reads⟩
          · exact .inr ⟨_, _, .illegible isText stands reads⟩
      | success nodes =>
          rcases ends : (program limits.depth [] nodes []).complete with ⟨after, outcome⟩
          cases outcome with
          | success output => exact .inl ⟨output, text, nodes, after, isText, reads, ends⟩
          | failure reason => exact .inr ⟨_, _, .failure isText reads ends⟩
          | fault cause =>
              have formed := formed_of_parseProgram reads
              have stops : (program limits.depth [] nodes []).complete.2 = .fault cause := by
                rw [ends]
              rcases program_fault_cases Environment.isNormal_nil formed stops with
                rfl | notFinite
              · exact .inr ⟨_, _, .depth isText reads ends⟩
              · refine .inr ⟨_, _, .unbounded isText reads ends notFinite ?_⟩
                intro enough
                exact (program_eq_fault_iff_meets Environment.isNormal_nil formed enough
                  cause).mp stops

/-!
## The session of a file
-/

/-- A session that reads a file, with the bindings made so far. -/
def reader (limits : Limits) (colored : Bool) (path : Text) (environment : Environment)
    (journal : List JournalEntry) : Session where
  handler := ⟨true, colored, [(path, {})]⟩
  path := path
  interactive := false
  limits := limits
  environment := environment
  results := []
  journal := journal

/-- The work on a file ends with something raised, which a handler that knows a place
in that file reports under a notice. -/
def EndsWith (colored : Bool) (path : Text) (work : Session × Except Raised Unit) (place : Place)
    (notice : Notice) : Prop :=
  ∃ left raised, work = (left, .error raised) ∧
    left.handler = ⟨true, colored, [(path, place)]⟩ ∧ Handler.Tells raised notice

/-- The work that a text gives to a session, without the output. -/
def performed (work : Session × Except Raised Text) : Session × Except Raised Unit :=
  (work.1, work.2.map fun _ => ())

section Work

variable {limits : Limits} {surroundings : Surroundings} {path : Text} {bytes : List Nat}

theorem start_reader (colored : Bool) (allowed : path ≠ Session.terminalName) :
    Session.start (.new true colored) path false limits =
      (reader limits colored path [] [], .ok ()) := by
  have different : (path == Session.terminalName) = false := beq_eq_false_iff_ne.mpr allowed
  simp only [Session.start, different, Bool.and_false, Bool.false_eq_true, if_false]
  rfl

theorem readFile_of_readable (readable : Readable surroundings path bytes) (colored : Bool) :
    readFile surroundings (reader limits colored path [] []) =
      match contents bytes with
      | .ok text => .ok text
      | .error place => .error (.fault (.undecodable place)) := by
  have named : (reader limits colored path [] []).path.contains '\x00' = false := readable.named
  have found : surroundings.files (reader limits colored path [] []).path = some bytes :=
    readable.found
  simp only [readFile, contents, named, found, Bool.false_eq_true, if_false]
  cases Text.decode bytes <;> rfl

theorem runFile_of_contents (readable : Readable surroundings path bytes) (colored : Bool)
    {text : Text} (isText : contents bytes = .ok text) :
    runFile surroundings (reader limits colored path [] []) =
      performed ((reader limits colored path [] []).run text 1) := by
  simp only [runFile, readFile_of_readable readable, isText, performed]
  rcases (reader limits colored path [] []).run text 1 with ⟨left, result⟩
  cases result <;> rfl

theorem reading_reader (limits : Limits) (colored : Bool) (path text : Text) :
    (reader limits colored path [] []).reading text = parseProgram limits.nesting text :=
  rfl

/-- A program that is read from the file is run from no bindings, and the outcome is
taken in. -/
theorem runFile_of_reads (readable : Readable surroundings path bytes) (colored : Bool)
    {text : Text} {nodes : List Node} {after : Environment} {outcome : Outcome Failure Text}
    (isText : contents bytes = .ok text)
    (reads : parseProgram limits.nesting text = .success nodes)
    (ends : (program limits.depth [] nodes []).complete = (after, outcome)) :
    ∃ journal, runFile surroundings (reader limits colored path [] []) =
      performed ((reader limits colored path after journal).conclude outcome) := by
  rcases Session.run_of_reading 1 ((reading_reader limits colored path text).trans reads) ends with
    ⟨journal, runs⟩
  refine ⟨journal, ?_⟩
  rw [runFile_of_contents readable colored isText, runs]
  rfl

theorem runFile_of_unread (readable : Readable surroundings path bytes) (colored : Bool)
    {text : Text} {cause : Fault} (isText : contents bytes = .ok text)
    (stops : parseProgram limits.nesting text = .fault cause) :
    runFile surroundings (reader limits colored path [] []) =
      (reader limits colored path [] [], .error (.fault cause)) := by
  have breaks := (reading_reader limits colored path text).trans stops
  rw [runFile_of_contents readable colored isText,
    Session.run_of_unread 1 (Session.parse_of_fault 1 breaks)]
  rfl

theorem runFile_of_fails (readable : Readable surroundings path bytes) {colored : Bool}
    {place : Place} {notice : Notice} (fails : Fails limits colored bytes place notice) :
    EndsWith colored path (runFile surroundings (reader limits colored path [] [])) place
      notice := by
  cases fails with
  | undecodable isNoText =>
      refine ⟨reader limits colored path [] [], _, ?_, rfl,
        .fault (by rintro ⟨⟩) (Handler.braceless_undecodable _)⟩
      simp only [runFile, readFile_of_readable readable, isNoText]
  | @refusal text error _ isText refuses located =>
      -- No other failure leaves a line in the handler.
      have parsed :=
        Session.parse_of_failure 1 ((reading_reader limits colored path text).trans refuses)
      rw [Session.raising_of_ofDraft (Notice.ofDraft_location colored _ error.fragment)] at parsed
      subst located
      refine ⟨(reader limits colored path [] []).misread text 1 error, _, ?_, ?_, .notice _⟩
      · rw [runFile_of_contents readable colored isText, Session.run_of_unread 1 parsed]
        rfl
      · simp only [Session.misread, reader, Handler.registerLine, Handler.setPlace, if_true]
  | unreadDepth isText stops =>
      exact ⟨_, _, runFile_of_unread readable colored isText stops, rfl, .tooDeep⟩
  | @illegible _ numeral isText stands stops =>
      exact ⟨_, _, runFile_of_unread readable colored isText stops, rfl,
        .fault (by rintro ⟨⟩) (Handler.braceless_notDecimal numeral)⟩
  | @failure _ _ after reason isText reads ends =>
      rcases runFile_of_reads readable colored isText reads ends with ⟨journal, runs⟩
      have raises : (reader limits colored path after journal).conclude (.failure reason) =
          (reader limits colored path after journal,
            .error (.notice (.bare reason.message false false))) :=
        congrArg _ (Session.raising_of_ofDraft
          (Notice.ofDraft_escape colored reason.message false false))
      rw [raises] at runs
      exact ⟨_, _, runs, rfl, .notice _⟩
  | depth isText reads ends =>
      rcases runFile_of_reads readable colored isText reads ends with ⟨journal, runs⟩
      exact ⟨_, _, runs, rfl, .tooDeep⟩
  | unbounded isText reads ends notFinite meets =>
      rcases runFile_of_reads readable colored isText reads ends with ⟨journal, runs⟩
      exact ⟨_, _, runs, rfl, .fault (Handler.ne_tooDeep_of_unbounded notFinite)
        (Handler.braceless_unbounded notFinite)⟩

end Work

/-!
## Whole runs
-/

/-- The first character of most file names settles that they are no options. -/
theorem asks_of_noDash {path : Text} (plain : path.head? ≠ some '-') :
    Request.ofArguments [path] = .ok (.calculate { file := some path }) := by
  have isPlain : Argument.ofText path = .ok (.plain path) := by
    unfold Argument.ofText
    split
    · exact absurd rfl plain
    · rfl
  have noDivider : path ≠ Argument.dividerText := by
    rintro rfl
    exact plain rfl
  simp only [Request.ofArguments, Argument.ofTexts, if_neg noDivider, isPlain]
  rfl

/-- The transcript of a file that succeeds. -/
def printed (output : Text) : Transcript := ⟨Handler.line output, [], .ok ()⟩

/-- The transcript of a file that fails. -/
def reported (colored : Bool) (path : Text) (place : Place) (notice : Notice) : Transcript :=
  ⟨(Handler.mk true colored [(path, place)]).report notice, [], .error (.exit (.number 1))⟩

theorem printed_inj {first second : Text} (same : printed first = printed second) :
    first = second :=
  List.append_cancel_right (congrArg Transcript.output same)

/-- What it means that a file is run as a whole.  The output and the end of a line are
printed exactly when the file holds a program that ends with that output.  Otherwise
the report of what went wrong is all that is printed, and the program ends with
status one. -/
structure RunsWhole (surroundings : Surroundings) (path : Text) (bytes : List Nat) : Prop where
  printed_iff : forall output,
    invoke surroundings [path] = printed output ↔ Succeeds surroundings.limits bytes output
  printed_or_reported :
    (∃ output, invoke surroundings [path] = printed output) ∨
    ∃ place notice, Fails surroundings.limits surroundings.colored bytes place notice ∧
      invoke surroundings [path] = reported surroundings.colored path place notice

section Runs

variable {surroundings : Surroundings} {path : Text} {bytes : List Nat}
  (asked : Request.ofArguments [path] = .ok (.calculate { file := some path }))
  (allowed : path ≠ Session.terminalName) (readable : Readable surroundings path bytes)
include asked allowed readable

theorem invoke_of_succeeds {output : Text} (succeeds : Succeeds surroundings.limits bytes output) :
    invoke surroundings [path] = printed output := by
  rcases succeeds with ⟨text, nodes, after, isText, reads, ends⟩
  rcases runFile_of_reads readable surroundings.colored isText reads ends with ⟨journal, runs⟩
  simp only [invoke, asked, calculateFile, start_reader surroundings.colored allowed, runs]
  simp [performed, Session.conclude, reader, transcript, Session.guard, shownJournal, printed,
    Except.map]

theorem invoke_of_fails {place : Place} {notice : Notice}
    (fails : Fails surroundings.limits surroundings.colored bytes place notice) :
    invoke surroundings [path] = reported surroundings.colored path place notice := by
  rcases runFile_of_fails readable fails with ⟨left, raised, runs, known, tells⟩
  have fatal : left.handler.fatal = true := by rw [known]
  have settles := Handler.settle_of_fatal fatal tells
  rw [known] at settles
  simp only [invoke, asked, calculateFile, start_reader surroundings.colored allowed, runs,
    transcript, Session.guard, known, settles]
  rfl

/-- A file that can be opened is run as a whole, if the command line takes its name
for that of a file and the name is not reserved. -/
theorem runs_whole : RunsWhole surroundings path bytes := by
  rcases succeeds_or_fails surroundings.limits surroundings.colored bytes with
    ⟨output, succeeds⟩ | ⟨place, notice, fails⟩
  · have invoked := invoke_of_succeeds asked allowed readable succeeds
    refine ⟨fun other => ⟨?_, invoke_of_succeeds asked allowed readable⟩, .inl ⟨output, invoked⟩⟩
    intro alsoInvoked
    rwa [← printed_inj (invoked.symm.trans alsoInvoked)]
  · have invoked := invoke_of_fails asked allowed readable fails
    refine ⟨fun other => ⟨?_, invoke_of_succeeds asked allowed readable⟩,
      .inr ⟨place, notice, fails, invoked⟩⟩
    -- A transcript that ends well is none of a failure.
    intro alsoInvoked
    cases congrArg Transcript.ending (invoked.symm.trans alsoInvoked)

end Runs

/-- The bytes of a text whose characters are one byte each. -/
def asBytes (text : String) : List Nat := text.toList.map Char.toNat

/-- Surroundings with a single file. -/
def withFile (path text : String) : Surroundings where
  files name := if name = path.toList then some (asBytes text) else none
  input := []
  colored := false

/-- A program whose second statement fails. -/
def halfway : String := "out 1\nout y"

/-- The output of the first statement is not printed when the second one fails. -/
theorem runs_whole_halfway :
    Request.ofArguments ["half.sc".toList] =
      .ok (.calculate { file := some "half.sc".toList }) ∧
    "half.sc".toList ≠ Session.terminalName ∧
    Readable (withFile "half.sc" halfway) "half.sc".toList (asBytes halfway) ∧
    RunsWhole (withFile "half.sc" halfway) "half.sc".toList (asBytes halfway) ∧
    (invoke (withFile "half.sc" halfway) ["half.sc".toList]).output =
      "error: unknown variable 'y'\n".toList ∧
    (invoke (withFile "half.sc" halfway) ["half.sc".toList]).ending =
      .error (.exit (.number 1)) ∧
    forall output, ¬ Succeeds .standard (asBytes halfway) output := by
  have asked : Request.ofArguments ["half.sc".toList] =
      .ok (.calculate { file := some "half.sc".toList }) := asks_of_noDash (by decide)
  have allowed : "half.sc".toList ≠ Session.terminalName := by decide
  have readable : Readable (withFile "half.sc" halfway) "half.sc".toList (asBytes halfway) :=
    ⟨by decide, rfl⟩
  have whole := runs_whole asked allowed readable
  have ends : (invoke (withFile "half.sc" halfway) ["half.sc".toList]).ending =
      .error (.exit (.number 1)) := by decide +kernel
  refine ⟨asked, allowed, readable, whole, by decide +kernel, ends, ?_⟩
  intro output succeeds
  rw [(whole.printed_iff output).mpr succeeds] at ends
  cases ends

/-- Not every file that can be opened is run: one that is named as an option is named
asks for help. -/
theorem optionName_not_run :
    Readable (withFile "-h" "out 1") "-h".toList (asBytes "out 1") ∧
    invoke (withFile "-h" "out 1") ["-h".toList] =
      ⟨Usage.description, [], .error (.exit (.number 0))⟩ ∧
    ¬ forall (surroundings : Surroundings) (path : Text) (bytes : List Nat),
      path ≠ Session.terminalName -> Readable surroundings path bytes ->
      RunsWhole surroundings path bytes := by
  have readable : Readable (withFile "-h" "out 1") "-h".toList (asBytes "out 1") :=
    ⟨by decide, rfl⟩
  have helps : invoke (withFile "-h" "out 1") ["-h".toList] =
      ⟨Usage.description, [], .error (.exit (.number 0))⟩ := rfl
  refine ⟨readable, helps, ?_⟩
  intro always
  rcases (always _ _ _ (by decide) readable).printed_or_reported with
    ⟨output, invoked⟩ | ⟨place, notice, fails, invoked⟩
  · cases congrArg Transcript.ending (helps.symm.trans invoked)
  · cases congrArg Transcript.ending (helps.symm.trans invoked)

end CommandLine
end SequenceCalculator
