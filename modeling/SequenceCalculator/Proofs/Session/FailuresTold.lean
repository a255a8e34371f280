import SequenceCalculator.Proofs.Session.Attribution

namespace SequenceCalculator

/-!
# Failures are told word for word

The message of a failure may hold braces, since it may show a sequence.  A notice is
made from a template in which braces have a meaning, so they are doubled on the way
in, and filling the template takes every pair back to one.

What a caller is told is therefore exactly the message.  For callers that share a
session this is a matter of two moments: an evaluation fails at a turn of its own, and
its caller learns it at a later one.  In between the caller can only wait, and
afterwards its conclusion is kept.
-/

namespace World

/-- What a caller is told about a failure. -/
def told (failure : Failure) : Conclusion :=
  .raised (.notice (Notice.bare failure.message false false))

/-- A turn of a caller ends no evaluation. -/
theorem finished_of_caller {world : World} {caller index : Nat} {evaluating : Evaluating}
    {outcome : Outcome Failure Text}
    (found : (world.move (.caller caller)).evaluations[index]? = some evaluating)
    (finished : evaluating.progress = .finished outcome) :
    ∃ before, world.evaluations[index]? = some before ∧
      before.progress = .finished outcome := by
  have turn := caller_cases world caller
  generalize world.move (.caller caller) = after at turn found
  cases turn with
  | rests => exact ⟨evaluating, found, finished⟩
  | refused was unread => exact ⟨evaluating, found, finished⟩
  | creates ready like idle =>
      rcases Chronicle.getElem?_append_singleton found with same | ⟨_, rfl⟩
      · rw [like.evaluations] at same
        exact ⟨evaluating, same, finished⟩
      · cases finished
  | replaces ready like flying =>
      rcases Chronicle.getElem?_modify_cases found with ⟨rfl, before, was, rfl⟩ | ⟨_, same⟩
      · rw [like.evaluations] at was
        exact ⟨before, was, finished⟩
      · rw [like.evaluations] at same
        exact ⟨evaluating, same, finished⟩
  | asks was flying =>
      rcases Chronicle.getElem?_modify_cases found with ⟨rfl, before, was, rfl⟩ | ⟨_, same⟩
      · exact ⟨before, was, finished⟩
      · exact ⟨evaluating, same, finished⟩
  | stopped was stops like =>
      rw [← like.evaluations]
      exact ⟨evaluating, found, finished⟩
  | received was ending isDone =>
      rw [(receive_frame world caller _ isDone).2.1] at found
      exact ⟨evaluating, found, finished⟩

/-- The conclusion of a caller is kept. -/
theorem conclusion?_move {world : World} {caller : Nat} {conclusion : Conclusion}
    (concluded : world.conclusion? caller = some conclusion) (next : Move) :
    (world.move next).conclusion? caller = some conclusion := by
  have stands : world.callers[caller]? = some (.concluded conclusion) := by
    unfold conclusion? at concluded
    split at concluded
    · next found => cases concluded; exact found
    · cases concluded
  have kept : (world.move next).callers[caller]? = some (.concluded conclusion) := by
    by_cases own : next = .caller caller
    · subst own
      simp only [move, callerTurn, stands]
    · exact callers_move_of_ne stands own
  simp only [conclusion?, kept]

/-- An evaluation that has ended does nothing at its turns. -/
theorem evaluationTurn_of_isDone {world : World} {index : Nat} {evaluating : Evaluating}
    (found : world.evaluations[index]? = some evaluating) (isDone : evaluating.isDone = true) :
    world.move (.evaluation index) = world := by
  simp only [move, evaluationTurn, found, isDone, if_true]

end World

namespace Chronicle

/-- The caller of a failed evaluation waits for it or was told of the failure. -/
def TellsFailures (chronicle : Chronicle) : Prop :=
  forall (caller index : Nat) (evaluating : Evaluating) (failure : Failure),
    chronicle.Owns caller index -> chronicle.world.evaluations[index]? = some evaluating ->
    evaluating.progress = .finished (.failure failure) ->
    chronicle.world.callers[caller]? = some (.awaiting index) ∨
      chronicle.world.conclusion? caller = some (World.told failure)

/-- The caller of an evaluation that has not ended waits for it. -/
theorem Orderly.awaits {chronicle : Chronicle} (orderly : chronicle.Orderly)
    {caller index : Nat} {evaluating : Evaluating} (owns : chronicle.Owns caller index)
    (found : chronicle.world.evaluations[index]? = some evaluating)
    (unfinished : evaluating.isDone = false) :
    chronicle.world.callers[caller]? = some (.awaiting index) := by
  rcases owns with ⟨record, recorded, rfl⟩
  rcases orderly.owned index record recorded with waits | ⟨_, _, other, isOther, gives⟩
  · exact waits
  · rw [found] at isOther
    cases isOther
    rw [isDone_of_gives gives] at unfinished
    cases unfinished

/-- A caller that waits for a failed evaluation is told of it at its turn. -/
theorem conclusion?_of_awaiting {world : World} {caller index : Nat} {evaluating : Evaluating}
    {failure : Failure} (waits : world.callers[caller]? = some (.awaiting index))
    (found : world.evaluations[index]? = some evaluating)
    (failed : evaluating.progress = .finished (.failure failure)) :
    (world.move (.caller caller)).conclusion? caller = some (World.told failure) := by
  refine (World.move_of_failure ?_).2
  rcases evaluating with ⟨progress, unwanted, watchers⟩
  subst failed
  simp only [World.failure?, waits, found]

/-- Every move keeps it.  A caller is told at its own turn; at a turn of the evaluation
it still waits if the evaluation has not ended before. -/
theorem TellsFailures.move {chronicle : Chronicle} (tells : chronicle.TellsFailures)
    (orderly : chronicle.Orderly) (next : Move) : (chronicle.move next).TellsFailures := by
  intro caller index evaluating failure owns found failed
  have waitsOn {stage : Stage} (was : chronicle.world.callers[caller]? = some stage)
      (different : next ≠ .caller caller) :
      (chronicle.move next).world.callers[caller]? = some stage :=
    World.callers_move_of_ne was different
  -- What was known before the move is still so after it.
  have keeps {before : Evaluating} (owned : chronicle.Owns caller index)
      (was : chronicle.world.evaluations[index]? = some before)
      (already : before.progress = .finished (.failure failure)) :
      (chronicle.move next).world.callers[caller]? = some (.awaiting index) ∨
        (chronicle.move next).world.conclusion? caller = some (World.told failure) := by
    rcases tells caller index before failure owned was already with waits | concluded
    · by_cases own : next = .caller caller
      · subst own
        exact .inr (conclusion?_of_awaiting waits was already)
      · exact .inl (waitsOn waits own)
    · exact .inr (World.conclusion?_move concluded next)
  by_cases owned : chronicle.Owns caller index
  · cases next with
    | call call => exact keeps owned found failed
    | caller other =>
        rcases World.finished_of_caller found failed with ⟨before, was, already⟩
        exact keeps owned was already
    | evaluation other =>
        rcases (World.evaluation_frame chronicle.world other).1 with ⟨change, changed, _⟩
        have found' : (chronicle.world.move (.evaluation other)).evaluations[index]? =
            some evaluating := found
        have modified := found'
        rw [changed] at modified
        rcases getElem?_modify_cases modified with ⟨rfl, before, was, _⟩ | ⟨_, was⟩
        · cases isDone : before.isDone with
          | true =>
              rw [World.evaluationTurn_of_isDone was isDone] at found'
              exact keeps owned found' failed
          | false =>
              exact .inl (waitsOn (orderly.awaits owned was isDone) (by intro same; cases same))
        · exact keeps owned was failed
  · -- A new evaluation has not had a turn yet.
    rcases orderly.creates_of_owns owns owned with ⟨rfl, creates⟩
    rcases World.finished_of_caller found failed with ⟨before, was, _⟩
    have bounded := (List.getElem?_eq_some_iff.mp was).1
    have outside := creates.1
    omega

theorem tellsFailures_after (handler : Handler) (path : Text) (interactive : Bool)
    (limits : Limits) (moves : List Move) :
    ((new handler path interactive limits).after moves).TellsFailures := by
  have both := @after_induction (fun chronicle => chronicle.Orderly ∧ chronicle.TellsFailures)
    (new handler path interactive limits)
    ⟨orderly_new handler path interactive limits, fun caller index evaluating failure owns => by
      rcases owns with ⟨_, impossible, _⟩; cases impossible⟩
    (fun chronicle kept next => ⟨kept.1.move next, kept.2.move kept.1 next⟩) moves
  exact both.2

/-- A message with any braces in it comes through the template of its notice unchanged.
So a text whose evaluation fails raises exactly the message of the failure, when it is
run without interruption, and when its evaluation fails among those of any other
callers: then its caller is told at its next turn at the latest, and never anything
else. -/
theorem failure_told :
    (forall (colored : Bool) (message : Text),
      Notice.ofDraft colored { template := Template.escape message, diagnosis := false } =
        .ok (Notice.bare message false false)) ∧
    (forall (session : Session) (text : Text) (number : Int) (nodes : List Node)
        (environment : Environment) (failure : Failure),
      session.reading text = .success nodes ->
      (Evaluation.program session.limits.depth [] nodes session.environment).complete =
        (environment, .failure failure) ->
      (session.run text number).2 =
        .error (.notice (Notice.bare failure.message false false))) ∧
    (forall (handler : Handler) (path : Text) (interactive : Bool) (limits : Limits)
        (moves : List Move) (index : Nat) (record : Record) (evaluating : Evaluating)
        (failure : Failure),
      ((new handler path interactive limits).after moves).records[index]? = some record ->
      ((new handler path interactive limits).after moves).world.evaluations[index]? =
        some evaluating ->
      evaluating.progress = .finished (.failure failure) ->
      (∃ text number,
        ((new handler path interactive limits).after moves).calls[record.caller]? =
          some (.submit text number) ∧
        (Session.start handler path interactive limits).1.reading text =
          .success record.nodes ∧
        (record.activity limits.depth).complete.2 = .failure failure) ∧
      (forall conclusion,
        ((new handler path interactive limits).after moves).world.conclusion? record.caller =
          some conclusion ->
        conclusion = .raised (.notice (Notice.bare failure.message false false))) ∧
      ((new handler path interactive limits).after
          (moves ++ [.caller record.caller])).world.conclusion? record.caller =
        some (.raised (.notice (Notice.bare failure.message false false)))) := by
  refine ⟨fun colored message => Notice.ofDraft_escape colored message false false, ?_, ?_⟩
  · intro session text number nodes environment failure reads fails
    rcases Session.run_of_reading number reads fails with ⟨journal, runs⟩
    rw [runs]
    exact Session.raising_of_ofDraft (Notice.ofDraft_escape _ failure.message false false)
  · intro handler path interactive limits moves index record evaluating failure recorded found
      failed
    have orderly := orderly_after handler path interactive limits moves
    have sameKind := sameKind_after (new handler path interactive limits) moves
    have within := limits_new handler path interactive limits moves
    have tells := tellsFailures_after handler path interactive limits moves record.caller index
      evaluating failure ⟨record, recorded, rfl⟩ found failed
    have moved : ((new handler path interactive limits).after
        (moves ++ [.caller record.caller])).world =
        ((new handler path interactive limits).after moves).world.move (.caller record.caller) := by
      rw [after_append]
      rfl
    rw [moved]
    generalize (new handler path interactive limits).after moves = chronicle at *
    refine ⟨?_, ?_⟩
    · rcases orderly.submitted index record recorded with ⟨text, number, called, reads⟩
      have follows := orderly.follows index record evaluating recorded found
      rw [failed, within] at follows
      rcases follows with ⟨turn, environment, _, finished⟩
      rw [sameKind.reading] at reads
      exact ⟨text, number, called, reads,
        congrArg Prod.snd (Activity.complete_of_after finished)⟩
    · rcases tells with waits | concluded
      · refine ⟨fun conclusion concluded => ?_, conclusion?_of_awaiting waits found failed⟩
        simp only [World.conclusion?, waits] at concluded
        cases concluded
      · refine ⟨fun conclusion already => ?_, World.conclusion?_move concluded _⟩
        rw [concluded] at already
        exact (Option.some.inj already).symm

/-- A text that fails with a message in which braces stand. -/
def bracedText : Text := "out \x7b1\x7d + 2".toList

/-- Its message. -/
def bracedMessage : Text :=
  "expression \x7b1\x7d should be a number, yet it is a sequence".toList

/-- The text is typed, and its evaluation is given the turns it needs. -/
def bracedFailure : List Move :=
  [.call (.submit bracedText 1), .caller 0] ++ List.replicate 4 (.evaluation 0)

theorem failure_told_braces :
    (terminal.after bracedFailure).world.failure? 0 =
      some (.wrongKind (.sequence [.one]) .number) ∧
    (terminal.after (bracedFailure ++ [.caller 0])).world.conclusion? 0 =
      some (.raised (.notice (Notice.bare bracedMessage false false))) ∧
    (terminal.world.session.run bracedText 1).2 =
      .error (.notice (Notice.bare bracedMessage false false)) := by
  have message : (Failure.wrongKind (.sequence [.one]) .number).message = bracedMessage := by
    decide +kernel
  have fails : (terminal.after bracedFailure).world.failure? 0 =
      some (.wrongKind (.sequence [.one]) .number) := by decide +kernel
  refine ⟨fails, ?_, ?_⟩
  · rcases World.exists_of_failure? fails with ⟨index, evaluating, waits, found, failed⟩
    have orderly : (terminal.after bracedFailure).Orderly :=
      orderly_after (Handler.new false false) Session.terminalName true .standard bracedFailure
    rcases orderly.call_of waits with ⟨call, called⟩
    rcases orderly.staged 0 call _ called waits with ⟨record, recorded, isCaller⟩
    have told := (failure_told.2.2 (Handler.new false false) Session.terminalName true
      .standard bracedFailure index record evaluating _ recorded found failed).2.2
    rw [isCaller, message] at told
    exact told
  · have ends : (terminal.world.session.reading bracedText).map (fun nodes =>
        (Evaluation.program terminal.world.session.limits.depth [] nodes
          terminal.world.session.environment).complete.2) =
        .success (.failure (.wrongKind (.sequence [.one]) .number)) := by decide +kernel
    rcases Outcome.map_eq_success ends with ⟨nodes, reads, fails⟩
    have raises := failure_told.2.1 terminal.world.session bracedText 1 nodes _ _ reads
      (Prod.ext rfl fails.symm)
    rwa [message] at raises

end Chronicle

end SequenceCalculator
