import SequenceCalculator.Proofs.Report.Notices
import SequenceCalculator.Proofs.Session.TurnCases

namespace SequenceCalculator

/-!
# Which text a failure is reported for

The handler knows one line of a session's file at a time.  A caller writes its text
there when its evaluation is created, in case that fails.  Until the failure reaches
the caller, others may write to the same place: a text that cannot be read writes
where it ends, another evaluation writes its own text, and an output clears the
place.  The report names the text that has failed only if the last of them, if there
is any, has written the same.
-/

namespace Handler

/-- The line of a file that is being worked on. -/
def place? (handler : Handler) (path : Text) : Option Place :=
  (handler.places.find? fun entry => decide (entry.1 = path)).map Prod.snd

theorem find?_setPlace (path : Text) (place : Place) (places : List (Text × Place)) :
    (setPlace path place places).find? (fun entry => decide (entry.1 = path)) =
      some (path, place) := by
  induction places with
  | nil => simp [setPlace]
  | cons first rest inductionHypothesis =>
      rcases first with ⟨known, old⟩
      by_cases same : known = path
      · simp [setPlace, same]
      · simp [setPlace, same, inductionHypothesis]

@[simp] theorem place?_registerLine (handler : Handler) (path line : Text) (number : Int) :
    (handler.registerLine path line number).place? path = some ⟨some line, some number⟩ := by
  simp only [place?, registerLine, find?_setPlace, Option.map_some]

@[simp] theorem place?_removeLine (handler : Handler) (path : Text) :
    (handler.removeLine path).place? path = some {} := by
  simp only [place?, removeLine, find?_setPlace, Option.map_some]

end Handler

namespace Session

/-- The line of the session's file that is being worked on. -/
def place? (session : Session) : Option Place := session.handler.place? session.path

theorem place?_announce {session : Session} (interactive : session.interactive = true)
    (text : Text) (number : Int) :
    (session.announce text number).place? = some ⟨some text, some number⟩ := by
  simp [announce, interactive, place?]

/-- What a text that cannot be read writes. -/
def misreading? (session : Session) (text : Text) (number : Int) : Option Place :=
  match session.reading text with
  | .failure error =>
      some ⟨some (Location.ofOffset text error.offset).line,
        some (number + (Location.ofOffset text error.offset).index)⟩
  | _ => none

/-- A text that was not read has written what such a text writes. -/
theorem place?_of_unread {session left : Session} {text : Text} {number : Int} {raised : Raised}
    (unread : session.parse text number = (left, .error raised)) :
    left.place? = (session.misreading? text number).or session.place? := by
  cases reads : session.reading text with
  | success nodes =>
      rw [parse_of_success number reads] at unread
      cases unread
  | fault fault =>
      simp only [misreading?, reads, Option.none_or]
      rw [parse_of_fault number reads] at unread
      cases unread
      rfl
  | failure error =>
      simp only [misreading?, reads, Option.some_or]
      rw [parse_of_failure number reads] at unread
      rw [← (Prod.mk.inj unread).1]
      exact Handler.place?_registerLine _ _ _ _

/-- A typed text that is run without interruption and fails is reported for itself. -/
theorem run_of_failure {session : Session} (interactive : session.interactive = true)
    {text : Text} (number : Int) {nodes : List Node} (reads : session.reading text = .success nodes)
    {environment : Environment} {failure : Failure}
    (fails : (Evaluation.program session.limits.depth [] nodes session.environment).complete =
      (environment, .failure failure)) :
    (session.run text number).2 = .error (.notice (Notice.bare failure.message false false)) ∧
      (session.run text number).1.place? = some ⟨some text, some number⟩ := by
  rcases run_of_reading number reads fails with ⟨journal, runs⟩
  rw [runs]
  constructor
  · exact raising_of_ofDraft (Notice.ofDraft_escape _ failure.message false false)
  · exact place?_announce interactive text number

end Session

/-- What a caller of a session writes as the line that is being worked on when it goes
from one stage to another. -/
def Stage.written? (session : Session) : Stage -> Stage -> Option Place
  | .submitting text number, .concluded _ => session.misreading? text number
  | .submitting text number, .awaiting _ => some ⟨some text, some number⟩
  | .stopping _ (some submission), .awaiting _ =>
      some ⟨some submission.text, some submission.number⟩
  | .awaiting _, .concluded (.output _) => some {}
  | _, _ => none

theorem Stage.written?_self (session : Session) (stage : Stage) :
    stage.written? session stage = none := by
  cases stage with
  | stopping index submission => cases submission <;> rfl
  | _ => rfl

namespace World

/-- What is written at a move. -/
def written? (world : World) : Move -> Option Place
  | .caller caller =>
      match world.callers[caller]?, (world.move (.caller caller)).callers[caller]? with
      | some stage, some later => stage.written? world.session later
      | _, _ => none
  | _ => none

/-- What is written at several moves, one after the other. -/
def written (world : World) : List Move -> List Place
  | [] => []
  | next :: rest => (world.written? next).toList ++ (world.move next).written rest

theorem written?_of_stages {world : World} {caller : Nat} {stage later : Stage}
    (was : world.callers[caller]? = some stage)
    (becomes : (world.move (.caller caller)).callers[caller]? = some later) :
    world.written? (.caller caller) = stage.written? world.session later := by
  simp only [written?, was, becomes]

/-- A caller that is ready writes its text when its evaluation is created. -/
theorem Ready.written? {world : World} {caller : Nat} {submission : Submission}
    (ready : world.Ready caller submission) :
    ∃ stage, world.callers[caller]? = some stage ∧
      (forall index, stage.written? world.session (.awaiting index) =
        some ⟨some submission.text, some submission.number⟩) ∧
      forall index other, stage.written? world.session (.stopping index other) = none := by
  cases ready with
  | read was reads => exact ⟨_, was, fun _ => rfl, fun _ _ => rfl⟩
  | stopped index evaluating was found isDone =>
      exact ⟨_, was, fun _ => rfl, fun _ _ => rfl⟩

/-- A caller whose evaluation has failed raises the failure as a notice. -/
theorem receive_of_failure (world : World) (caller index : Nat) (failure : Failure) :
    world.receive caller index (.finished (.failure failure)) =
      (world.forget index).concludeCaller caller
        (.raised (.notice (Notice.bare failure.message false false))) := by
  have raises : ((world.forget index).session.raising
      { template := Template.escape failure.message, diagnosis := false } : Except Raised Text) =
      .error (.notice (Notice.bare failure.message false false)) :=
    Session.raising_of_ofDraft (Notice.ofDraft_escape _ failure.message false false)
  simp only [receive, Session.conclude, raises]

/-- A caller that takes in the end of its evaluation writes only what an output does. -/
theorem place?_receive (world : World) (caller index : Nat) {evaluating : Evaluating}
    (isDone : evaluating.isDone = true) :
    ∃ conclusion, (world.receive caller index evaluating.progress).callers =
        world.callers.set caller (.concluded conclusion) ∧
      (world.receive caller index evaluating.progress).session.place? =
        ((Stage.awaiting index).written? world.session (.concluded conclusion)).or
          world.session.place? := by
  rcases Chronicle.forget_agrees world index with ⟨callers, _, session⟩
  cases progress : evaluating.progress with
  | created nodes => simp [Evaluating.isDone, progress] at isDone
  | suspended resume => simp [Evaluating.isDone, progress] at isDone
  | cancelled => exact ⟨_, rfl, rfl⟩
  | finished outcome =>
      cases outcome with
      | fault fault => exact ⟨_, rfl, rfl⟩
      | failure failure =>
          rw [receive_of_failure]
          refine ⟨_, congrArg (List.set · caller _) callers, ?_⟩
          simp only [Session.place?, concludeCaller, setStage, session, Stage.written?,
            Option.none_or]
      | success output =>
          refine ⟨_, congrArg (List.set · caller _) callers, ?_⟩
          simp only [Session.place?, receive, Session.conclude, concludeCaller, setStage,
            session, Stage.written?, Option.some_or, Handler.place?_removeLine]

/-- The line that is being worked on is the one that was written, if anything was. -/
theorem place?_move {world : World} (interactive : world.session.interactive = true)
    (next : Move) :
    (world.move next).session.place? = (world.written? next).or world.session.place? := by
  cases next with
  | call call => rfl
  | evaluation index =>
      rcases evaluation_frame world index with ⟨_, _, handler, path, _⟩
      simp only [Session.place?, handler, path, written?, Option.none_or]
  | caller caller =>
      have turn := caller_cases world caller
      have goes {stage later : Stage} (was : world.callers[caller]? = some stage)
          (set : (world.move (.caller caller)).callers = world.callers.set caller later) :
          world.written? (.caller caller) = stage.written? world.session later := by
        refine written?_of_stages was ?_
        rw [set]
        exact List.getElem?_set_self (List.getElem?_eq_some_iff.mp was).1
      have rests (same : world.move (.caller caller) = world) :
          world.written? (.caller caller) = none := by
        simp only [written?, same]
        cases world.callers[caller]? with
        | none => rfl
        | some stage => exact stage.written?_self world.session
      generalize world.move (.caller caller) = after at turn goes rests
      cases turn with
      | rests => rw [rests rfl, Option.none_or]
      | @refused text number session raised was unread =>
          rw [goes was rfl]
          exact Session.place?_of_unread unread
      | @creates submission between ready like idle =>
          rcases ready.written? with ⟨stage, was, written, _⟩
          rw [goes was (congrArg (List.set · caller _) like.callers), written, Option.some_or]
          exact Session.place?_announce (like.sameKind.interactive.trans interactive) _ _
      | @replaces submission between index ready like flying =>
          rcases ready.written? with ⟨stage, was, _, unwritten⟩
          rw [goes was (congrArg (List.set · caller _) like.callers), unwritten, Option.none_or]
          simp only [Session.place?, stop, setStage, changeEvaluation, like.handler, like.path]
      | asks was flying => rw [goes was rfl]; rfl
      | @stopped between running old was stops like =>
          have unwritten : forall conclusion,
              old.written? world.session (.concluded (.stopped conclusion)) = none := by
            intro conclusion
            rcases stops with rfl | ⟨index, rfl⟩ <;> rfl
          rw [goes was (congrArg (List.set · caller _) like.callers), unwritten, Option.none_or]
          simp only [Session.place?, concludeCaller, setStage, like.handler, like.path]
      | @received index evaluating was found isDone =>
          rcases place?_receive world caller index isDone with ⟨conclusion, callers, place⟩
          rw [goes was callers, place]

/-- The line that is being worked on is the last one that was written. -/
theorem place?_foldl {world : World} (interactive : world.session.interactive = true)
    (moves : List Move) :
    (moves.foldl move world).session.place? =
      (world.written moves).getLast?.or world.session.place? := by
  induction moves generalizing world with
  | nil => rfl
  | cons next rest inductionHypothesis =>
      have kept := (session_move world next).2.interactive.trans interactive
      calc (rest.foldl move (world.move next)).session.place?
          = ((world.move next).written rest).getLast?.or (world.move next).session.place? :=
            inductionHypothesis kept
        _ = ((world.move next).written rest).getLast?.or
              ((world.written? next).or world.session.place?) := by
            rw [place?_move interactive]
        _ = (world.written (next :: rest)).getLast?.or world.session.place? := by
            rw [written, List.getLast?_append, Option.or_assoc]
            cases world.written? next <;> rfl

/-- Nothing is written as long as no caller has a turn. -/
theorem written_eq_nil {world : World} {moves : List Move}
    (quiet : forall caller, .caller caller ∉ moves) : world.written moves = [] := by
  induction moves generalizing world with
  | nil => rfl
  | cons next rest inductionHypothesis =>
      have later := @inductionHypothesis (world.move next)
        (fun caller member => quiet caller (List.mem_cons_of_mem _ member))
      cases next with
      | caller caller => exact absurd List.mem_cons_self (quiet caller)
      | call call =>
          rw [written, later]
          rfl
      | evaluation index =>
          rw [written, later]
          rfl

/-- The failure of its evaluation that a caller is going to be told at its turn. -/
def failure? (world : World) (caller : Nat) : Option Failure :=
  match world.callers[caller]? with
  | some (.awaiting index) =>
      match world.evaluations[index]? with
      | some ⟨.finished (.failure failure), _, _⟩ => some failure
      | _ => none
  | _ => none

theorem exists_of_failure? {world : World} {caller : Nat} {failure : Failure}
    (fails : world.failure? caller = some failure) :
    ∃ index evaluating, world.callers[caller]? = some (.awaiting index) ∧
      world.evaluations[index]? = some evaluating ∧
      evaluating.progress = .finished (.failure failure) := by
  unfold failure? at fails
  split at fails
  · next index waits =>
    split at fails
    · next found =>
      cases fails
      exact ⟨index, _, waits, found, rfl⟩
    · cases fails
  · cases fails

/-- The turn at which a failure reaches its caller raises it and writes nothing. -/
theorem move_of_failure {world : World} {caller : Nat} {failure : Failure}
    (fails : world.failure? caller = some failure) :
    (world.move (.caller caller)).session = world.session ∧
      (world.move (.caller caller)).conclusion? caller =
        some (.raised (.notice (Notice.bare failure.message false false))) := by
  rcases exists_of_failure? fails with ⟨index, evaluating, waits, found, failed⟩
  rcases Chronicle.forget_agrees world index with ⟨callers, _, session⟩
  have inside : caller < (world.forget index).callers.length := by
    rw [callers]
    exact (List.getElem?_eq_some_iff.mp waits).1
  simp only [move, callerTurn, waits, found, failed, receive_of_failure]
  refine ⟨session, ?_⟩
  simp only [conclusion?, concludeCaller, setStage, List.getElem?_set_self inside]

end World

namespace Chronicle

/-- A caller that is ready goes on with the text it was called with. -/
theorem Orderly.call_of_ready {chronicle : Chronicle} (orderly : chronicle.Orderly)
    {caller : Nat} {submission : Submission}
    (ready : chronicle.world.Ready caller submission) :
    chronicle.calls[caller]? = some (.submit submission.text submission.number) := by
  cases ready with
  | read was reads =>
      rcases orderly.call_of was with ⟨call, called⟩
      rw [called, show call = _ from orderly.staged caller call _ called was]
  | stopped index evaluating was found isDone =>
      rcases orderly.call_of was with ⟨call, called⟩
      have submits : chronicle.Submits call submission := orderly.staged caller call _ called was
      rw [called, submits.1]

/-- The text of a caller is written when its evaluation is created. -/
theorem Orderly.place?_of_creates {chronicle : Chronicle} (orderly : chronicle.Orderly)
    (interactive : chronicle.world.session.interactive = true) {caller index : Nat}
    (creates : chronicle.world.Creates caller index) :
    ∃ text number, chronicle.calls[caller]? = some (.submit text number) ∧
      (chronicle.world.move (.caller caller)).session.place? =
        some ⟨some text, some number⟩ := by
  rcases creates.created with ⟨submission, between, ready, like, _, moved⟩
  refine ⟨submission.text, submission.number, orderly.call_of_ready ready, ?_⟩
  rw [moved]
  exact Session.place?_announce (like.sameKind.interactive.trans interactive) _ _

/-- A failed evaluation is reported for the text that has failed exactly if the last
one to write since the evaluation was created, if there is any, has written that text
and number; in particular if no caller has had a turn in between, and always if the
text is run without interruption. -/
theorem failure_attributed_iff (handler : Handler) (path : Text) (limits : Limits) :
    (forall (moves : List Move) (caller : Nat) (failure : Failure),
      ((new handler path true limits).after moves).world.failure? caller = some failure ->
      ∃ index before between text number,
        moves = before ++ .caller caller :: between ∧
        ((new handler path true limits).after before).world.Creates caller index ∧
        ((new handler path true limits).after moves).calls[caller]? = some (.submit text number) ∧
        ((new handler path true limits).after
            (moves ++ [.caller caller])).world.conclusion? caller =
          some (.raised (.notice (Notice.bare failure.message false false))) ∧
        (((new handler path true limits).after (moves ++ [.caller caller])).world.session.place? =
            some ⟨some text, some number⟩ ↔
          forall place, (((new handler path true limits).after
              (before ++ [.caller caller])).world.written between).getLast? = some place ->
            place = ⟨some text, some number⟩) ∧
        ((forall other, .caller other ∉ between) ->
          ((new handler path true limits).after (moves ++ [.caller caller])).world.session.place? =
            some ⟨some text, some number⟩)) ∧
    (forall (session : Session) (text : Text) (number : Int) (nodes : List Node)
        (environment : Environment) (failure : Failure),
      session.interactive = true -> session.reading text = .success nodes ->
      (Evaluation.program session.limits.depth [] nodes session.environment).complete =
        (environment, .failure failure) ->
      (session.run text number).2 =
          .error (.notice (Notice.bare failure.message false false)) ∧
        (session.run text number).1.place? = some ⟨some text, some number⟩) := by
  refine ⟨?_, fun _ _ number _ _ _ interactive reads fails =>
    Session.run_of_failure interactive number reads fails⟩
  intro moves caller failure fails
  rcases World.exists_of_failure? fails with ⟨index, evaluating, waits, _, _⟩
  have orderly := orderly_after handler path true limits moves
  rcases orderly.call_of waits with ⟨call, called⟩
  have owns : ((new handler path true limits).after moves).Owns caller index :=
    orderly.staged caller call _ called waits
  rcases exists_turning (fun chronicle => chronicle.Owns caller index)
      (new handler path true limits) moves
      (by rintro ⟨_, impossible, _⟩; cases impossible) owns with
    ⟨before, next, between, split, unowned, owned⟩
  have orderlyBefore := orderly_after handler path true limits before
  rcases orderlyBefore.creates_of_owns owned unowned with ⟨rfl, creates⟩
  rcases orderlyBefore.place?_of_creates (interactive_new handler path true limits before) creates
    with ⟨text, number, calledBefore, written⟩
  have calledFinally := getElem?_calls_after calledBefore (.caller caller :: between)
  rw [← after_append, ← split] at calledFinally
  rcases World.move_of_failure fails with ⟨session, concluded⟩
  have moved : ((new handler path true limits).after (moves ++ [.caller caller])).world =
      ((new handler path true limits).after moves).world.move (.caller caller) := by
    rw [after_append]
    rfl
  -- What stands there in the end was written since the creation or at it.
  have place_eq : ((new handler path true limits).after
      (moves ++ [.caller caller])).world.session.place? =
      (((new handler path true limits).after (before ++ [.caller caller])).world.written
        between).getLast?.or (some ⟨some text, some number⟩) := by
    have last := World.place?_foldl
      (interactive_new handler path true limits (before ++ [.caller caller])) between
    have along : before ++ .caller caller :: between = (before ++ [.caller caller]) ++ between :=
      List.append_cons before (.caller caller) between
    rw [moved, session, split, along, after_append, world_after, last]
    rw [after_append]
    exact congrArg _ written
  refine ⟨index, before, between, text, number, split, creates, calledFinally, ?_, ?_, ?_⟩
  · rw [moved]
    exact concluded
  · rw [place_eq]
    cases (((new handler path true limits).after (before ++ [.caller caller])).world.written
        between).getLast? with
    | none => simp
    | some place => simp
  · intro quiet
    rw [place_eq, World.written_eq_nil quiet]
    rfl

/-- A text that fails while nobody else does anything. -/
def failing : List Move :=
  [.call (.submit "out 1 + z".toList 1), .caller 0, .evaluation 0, .evaluation 0, .evaluation 0,
    .evaluation 0]

theorem failure_attributed_iff_failing :
    (terminal.after failing).world.failure? 0 = some (.unknownVariable ['z']) ∧
    (terminal.after (failing ++ [.caller 0])).world.session.place? =
      some ⟨some "out 1 + z".toList, some 1⟩ := by
  have fails : (terminal.after failing).world.failure? 0 = some (.unknownVariable ['z']) := by
    decide +kernel
  refine ⟨fails, ?_⟩
  rcases (failure_attributed_iff (Handler.new false false) Session.terminalName .standard).1
    failing 0 _ fails with ⟨index, before, between, text, number, split, _, called, _, _, quiet⟩
  have isCall : (terminal.after failing).calls[0]? =
      some (.submit "out 1 + z".toList 1) := by decide +kernel
  obtain ⟨rfl, rfl⟩ : text = "out 1 + z".toList ∧ number = 1 := by
    have same := called.symm.trans isCall
    cases same
    exact ⟨rfl, rfl⟩
  apply quiet
  intro other member
  -- The caller has had one turn, the second move.
  have once : (failing.filter fun next => next matches .caller _).length = 1 := by decide
  have atLeast : 0 < (between.filter fun next => next matches .caller _).length :=
    List.length_pos_of_mem (List.mem_filter.mpr ⟨member, rfl⟩)
  rw [split, List.filter_append, List.length_append, List.filter_cons_of_pos rfl,
    List.length_cons] at once
  omega

/-- While an evaluation is suspended, somebody submits a text that cannot be read. -/
def misattributing : List Move :=
  [.call (.submit "out 1 + z".toList 1), .caller 0, .evaluation 0,
    .call (.submit "out )".toList 2), .caller 1, .evaluation 0, .evaluation 0,
    .evaluation 0]

/-- A failure is not always reported for the text that has failed. -/
theorem failure_misattributed :
    (terminal.after misattributing).calls[0]? = some (.submit "out 1 + z".toList 1) ∧
    (terminal.after misattributing).world.failure? 0 = some (.unknownVariable ['z']) ∧
    (terminal.after (misattributing ++ [.caller 0])).world.conclusion? 0 =
      some (.raised (.notice (Notice.bare "unknown variable 'z'".toList false false))) ∧
    (terminal.after (misattributing ++ [.caller 0])).world.session.place? =
      some ⟨some "out )".toList, some 2⟩ ∧
    ¬ forall (moves : List Move) (caller : Nat) (failure : Failure) (text : Text)
        (number : Int), (terminal.after moves).world.failure? caller = some failure ->
      (terminal.after moves).calls[caller]? = some (.submit text number) ->
      (terminal.after (moves ++ [.caller caller])).world.session.place? =
        some ⟨some text, some number⟩ := by
  have called : (terminal.after misattributing).calls[0]? =
      some (.submit "out 1 + z".toList 1) := by decide +kernel
  have fails : (terminal.after misattributing).world.failure? 0 =
      some (.unknownVariable ['z']) := by decide +kernel
  have stands : (terminal.after (misattributing ++ [.caller 0])).world.session.place? =
      some ⟨some "out )".toList, some 2⟩ := by decide +kernel
  refine ⟨called, fails, by decide +kernel, stands, ?_⟩
  intro attributed
  have expected := attributed misattributing 0 _ _ _ fails called
  rw [stands] at expected
  revert expected
  decide

end Chronicle

end SequenceCalculator
