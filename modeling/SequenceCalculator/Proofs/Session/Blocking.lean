import SequenceCalculator.Proofs.Session.Orderly

namespace SequenceCalculator
namespace Session

/-!
# A text that is run without interruption

A text is read, its statements are carried out, and the outcome is taken in.  Each
way in which this can end is described by the whole session it leaves.  Only what
the journal then says is left open.
-/

open Evaluation

variable {session : Session} {text : Text} (number : Int)

theorem parse_of_success {nodes : List Node}
    (reads : session.reading text = .success nodes) :
    session.parse text number = (session.note "session"
      (s!"parsed {nodes.length} statement(s) from ".toList ++ session.path), .ok nodes) := by
  unfold reading at reads
  simp only [parse, reads]

theorem parse_of_fault {fault : Fault}
    (stops : session.reading text = .fault fault) :
    session.parse text number = (session, .error (.fault fault)) := by
  unfold reading at stops
  simp only [parse, stops]

/-- The session that has noted where a text cannot be read. -/
def misread (session : Session) (text : Text) (number : Int) (error : Grammar.SyntaxError) :
    Session :=
  { session with
    handler := session.handler.registerLine session.path
      (Location.ofOffset text error.offset).line
      (number + (Location.ofOffset text error.offset).index) }

theorem parse_of_failure {error : Grammar.SyntaxError}
    (fails : session.reading text = .failure error) :
    session.parse text number = (session.misread text number error,
      (session.misread text number error).raising
        ((Location.ofOffset text error.offset).draft error.fragment)) := by
  unfold reading at fails
  simp only [parse, fails, misread]

theorem raising_eq_error {α : Type} (session : Session) (draft : Notice.Draft) :
    ∃ raised, (session.raising draft : Except Raised α) = .error raised := by
  unfold raising
  split
  · next notice _ => exact ⟨.notice notice, rfl⟩
  · next fault _ => exact ⟨.fault fault, rfl⟩

theorem raising_of_ofDraft {α : Type} {draft : Notice.Draft} {notice : Notice}
    (made : Notice.ofDraft session.handler.colored draft = .ok notice) :
    (session.raising draft : Except Raised α) = .error (.notice notice) := by
  simp only [raising, made]

theorem run_of_unread {raised : Raised} {left : Session}
    (stops : session.parse text number = (left, .error raised)) :
    session.run text number = (left, .error raised) := by
  simp only [run, stops]

/-- A text that cannot be read is noted and raises something. -/
theorem run_of_unreadable {error : Grammar.SyntaxError}
    (fails : session.reading text = .failure error) :
    ∃ raised, session.run text number = (session.misread text number error, .error raised) := by
  rcases raising_eq_error (α := List Node) (session.misread text number error)
    ((Location.ofOffset text error.offset).draft error.fragment) with ⟨raised, raises⟩
  have parsed := parse_of_failure number fails
  rw [raises] at parsed
  exact ⟨raised, run_of_unread number parsed⟩

/-- The session at the end of an evaluation, before the outcome is taken in. -/
def evaluated (session : Session) (text : Text) (number : Int) (environment : Environment)
    (journal : List JournalEntry) : Session :=
  { session.announce text number with environment := environment, journal := journal }

theorem announce_note (session : Session) (source : String) (message text : Text) (number : Int) :
    (session.note source message).announce text number =
      { session.announce text number with journal := (session.note source message).journal } := by
  unfold announce
  cases interactive : session.interactive <;> simp [note, interactive]

theorem environment_announce (session : Session) (text : Text) (number : Int) :
    (session.announce text number).environment = session.environment :=
  (Agrees.announce session text number).environment

theorem limits_announce (session : Session) (text : Text) (number : Int) :
    (session.announce text number).limits = session.limits :=
  (Agrees.announce session text number).limits

theorem exists_noteEnd (session : Session) (outcome : Outcome Failure Text) :
    ∃ journal, session.noteEnd outcome = { session with journal := journal } := by
  cases outcome with
  | failure failure => exact ⟨_, rfl⟩
  | _ => exact ⟨session.journal, rfl⟩

/-- A text that was read is run by its program, and the outcome is taken in. -/
theorem run_of_reading {nodes : List Node}
    (reads : session.reading text = .success nodes)
    {environment : Environment} {outcome : Outcome Failure Text}
    (ends : (program session.limits.depth [] nodes session.environment).complete =
      (environment, outcome)) :
    ∃ journal, session.run text number =
      (session.evaluated text number environment journal).conclude outcome := by
  rw [← limits_announce session text number] at ends
  simp only [run, parse_of_success number reads, announce_note]
  simp only [noteBegin, note, environment_announce, ends]
  rcases exists_noteEnd _ outcome with ⟨journal, same⟩
  rw [same]
  exact ⟨journal, rfl⟩

theorem environment_conclude (session : Session) (outcome : Outcome Failure Text) :
    (session.conclude outcome).1.environment = session.environment := by
  cases outcome <;> rfl

theorem sameKind_conclude (session : Session) (outcome : Outcome Failure Text) :
    session.SameKind (session.conclude outcome).1 := by
  cases outcome <;> exact ⟨rfl, rfl⟩

/-- The bindings after a text was run are those its program has left; a text that
cannot be read leaves all bindings as they were. -/
theorem environment_run (session : Session) (text : Text) (number : Int) :
    (session.run text number).1.environment =
      match session.reading text with
      | .success nodes =>
          (program session.limits.depth [] nodes session.environment).complete.1
      | _ => session.environment := by
  cases reads : session.reading text with
  | success nodes =>
      rcases run_of_reading number reads rfl with ⟨journal, runs⟩
      rw [runs, environment_conclude]
      rfl
  | failure error =>
      rcases run_of_unreadable number reads with ⟨raised, runs⟩
      rw [runs]
      rfl
  | fault fault => rw [run_of_unread number (parse_of_fault number reads)]

/-- Running texts does not change how they are read. -/
theorem sameKind_run (session : Session) (text : Text) (number : Int) :
    session.SameKind (session.run text number).1 := by
  cases reads : session.reading text with
  | success nodes =>
      rcases run_of_reading number reads rfl with ⟨journal, runs⟩
      rw [runs]
      have announced := (Agrees.announce session text number).toSameKind
      refine SameKind.trans ?_ (sameKind_conclude _ _)
      exact ⟨announced.interactive, announced.limits⟩
  | failure error =>
      rcases run_of_unreadable number reads with ⟨raised, runs⟩
      rw [runs]
      exact ⟨rfl, rfl⟩
  | fault fault =>
      rw [run_of_unread number (parse_of_fault number reads)]
      exact .refl session

end Session
end SequenceCalculator
