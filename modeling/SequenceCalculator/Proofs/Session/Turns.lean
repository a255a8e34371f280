import SequenceCalculator.Proofs.Session.Orderly

namespace SequenceCalculator

/-!
# Every turn keeps the invariant

Each turn is followed along its definition, with one statement for what a caller
may be doing.  The moves of a session are turns and new callers, so the invariant
holds after any moves.
-/

namespace Chronicle

theorem Orderly.evaluationTurn {chronicle : Chronicle} (orderly : chronicle.Orderly)
    (index : Nat) : (chronicle.move (.evaluation index)).Orderly := by
  cases found : chronicle.world.evaluations[index]? with
  | none =>
      have same : chronicle.move (.evaluation index) = chronicle := by
        simp [move, World.move, World.evaluationTurn, World.goesOn, found]
      rwa [same]
  | some evaluating =>
      cases isDone : evaluating.isDone with
      | true =>
          have same : chronicle.move (.evaluation index) = chronicle := by
            simp [move, World.move, World.evaluationTurn, World.goesOn, found, isDone]
          rwa [same]
      | false =>
          rcases orderly.record_of found with ⟨record, recorded⟩
          have follows := orderly.follows index record evaluating recorded found
          have left_eq := orderly.left_eq found isDone recorded
          cases isUnwanted : evaluating.unwanted with
          | true =>
              -- The turn at which it is cancelled does not count.
              have cancelled :
                  record.Follows chronicle.world.session.limits.depth .cancelled := by
                cases progress : evaluating.progress with
                | created nodes => rw [progress] at follows; exact .inl follows.1
                | suspended resume =>
                    rw [progress] at follows
                    rcases follows with ⟨turn, environment, turns, suspended⟩
                    exact .inr ⟨turn, environment, resume, turns, suspended⟩
                | finished outcome => simp [Evaluating.isDone, progress] at isDone
                | cancelled => simp [Evaluating.isDone, progress] at isDone
              have kept := orderly.progress found isDone recorded id (fun _ => rfl)
                (fun _ => rfl) (fun _ => rfl) .cancelled chronicle.world.session cancelled
                (fun _ => isUnwanted) left_eq rfl (.refl _)
              rw [List.modify_id] at kept
              simpa [move, World.move, World.evaluationTurn, World.goesOn, found, isDone,
                isUnwanted] using kept
          | false =>
              cases progress : evaluating.progress with
              | created nodes =>
                  rw [progress] at follows
                  have reached :
                      (record.activity chronicle.world.session.limits.depth).after record.turns =
                      Evaluation.program
                        (chronicle.world.session.noteBegin nodes).limits.depth [] nodes
                        (chronicle.world.session.noteBegin nodes).environment := by
                    change _ = Evaluation.program _ [] nodes chronicle.world.session.environment
                    rw [← left_eq, Record.left, follows.1, follows.2]
                    rfl
                  have moved := orderly.advance found isDone recorded
                    (chronicle.world.session.noteBegin nodes)
                    (Session.Agrees.note _ _ _) reached
                  simpa [move, World.move, World.evaluationTurn, World.goesOn, found, isDone,
                    isUnwanted, progress] using moved
              | suspended resume =>
                  rw [progress] at follows
                  rcases follows with ⟨turn, environment, turns, suspended⟩
                  have reached :
                      (record.activity chronicle.world.session.limits.depth).after record.turns =
                      resume chronicle.world.session.environment := by
                    have left :
                        record.left chronicle.world.session.limits.depth = environment := by
                      simp only [Record.left, turns, suspended, Activity.environment]
                    rw [← left_eq, left, turns, Activity.after_succ, suspended]
                    rfl
                  have moved := orderly.advance found isDone recorded
                    chronicle.world.session ⟨.refl _, rfl, rfl⟩ reached
                  simpa [move, World.move, World.evaluationTurn, World.goesOn, found, isDone,
                    isUnwanted, progress] using moved
              | finished outcome => simp [Evaluating.isDone, progress] at isDone
              | cancelled => simp [Evaluating.isDone, progress] at isDone

/-- The history after a turn of a caller that leads to a world. -/
def turned (chronicle : Chronicle) (caller : Nat) (world : World) : Chronicle :=
  { chronicle with world := world, records := chronicle.recordsAfter caller world }

/-- A turn that creates nothing leaves the records alone. -/
theorem turned_eq_inWorld {chronicle : Chronicle} {world : World} (caller : Nat)
    (kept : world.evaluations.length = chronicle.world.evaluations.length) :
    chronicle.turned caller world = chronicle.inWorld world := by
  have outside : world.evaluations[chronicle.world.evaluations.length]? = none := by
    rw [← kept]
    exact List.getElem?_eq_none (Nat.le_refl _)
  simp only [turned, inWorld, recordsAfter, outside]

/-- The records do not depend on what else a turn does before it creates
something. -/
theorem turned_inWorld {chronicle : Chronicle} {between : World} (caller : Nat) (world : World)
    (evaluations : between.evaluations = chronicle.world.evaluations)
    (environment : between.session.environment = chronicle.world.session.environment) :
    (chronicle.inWorld between).turned caller world = chronicle.turned caller world := by
  simp only [turned, inWorld, recordsAfter, evaluations, environment]

/-- A caller goes on with a text that was read. -/
theorem Orderly.proceed {chronicle : Chronicle} (orderly : chronicle.Orderly)
    (submission : Submission) {caller : Nat} {call : Call} {old : Stage}
    (called : chronicle.calls[caller]? = some call)
    (was : chronicle.world.callers[caller]? = some old)
    (submits : chronicle.Submits call submission) (early : old.isEarly = true)
    (passed : forall index submission, old = .stopping index (some submission) ->
      forall evaluating, chronicle.world.evaluations[index]? = some evaluating ->
        evaluating.isDone = true) :
    (chronicle.turned caller (chronicle.world.proceed caller submission).1).Orderly := by
  cases flying : chronicle.world.inFlight with
  | some index =>
      simp only [World.proceed, flying]
      rw [turned_eq_inWorld caller (List.length_modify _ _ _)]
      refine orderly.stop called was flying submits early ?_
      rintro other submission stops rfl
      rcases inFlight_eq_some flying with ⟨evaluating, found, unfinished⟩
      rw [passed other submission stops evaluating found] at unfinished
      cases unfinished
  | none =>
      have created := orderly.create called was flying submits early
      simpa only [World.proceed, flying, turned, recordsAfter, World.create, World.setStage,
        List.getElem?_concat_length] using created

/-- The report that an evaluation was cancelled does not fail. -/
theorem reportCancelled_eq_ok (world : World) : world.reportCancelled.2 = .ok () := by
  have made : forall colored, ∃ notice, Notice.ofDraft colored
      { template := "cancelled unfinished evaluation".toList, diagnosis := false } =
      .ok notice := by
    intro colored
    cases colored <;> exact ⟨_, rfl⟩
  rcases made world.session.handler.colored with ⟨notice, isMade⟩
  simp only [World.reportCancelled, Handler.warnDraft, Session.note, isMade]

/-- A caller whose evaluation to stop has ended reports that and goes on. -/
theorem callerTurn_of_stopped {world : World} {caller index : Nat}
    {submission : Option Submission} {evaluating : Evaluating}
    (was : world.callers[caller]? = some (.stopping index submission))
    (found : world.evaluations[index]? = some evaluating) (isDone : evaluating.isDone = true) :
    (world.callerTurn caller).1 =
      match submission with
      | some submission =>
          ((world.forget index).reportCancelled.1.proceed caller submission).1
      | none => (world.forget index).reportCancelled.1.concludeCaller caller (.stopped true) := by
  have succeeds := reportCancelled_eq_ok (world.forget index)
  rcases reported : (world.forget index).reportCancelled with ⟨after, result⟩
  rw [reported] at succeeds
  cases succeeds
  simp only [World.callerTurn, was, found, isDone, reported]
  cases submission <;> rfl

theorem Orderly.submittingTurn {chronicle : Chronicle} (orderly : chronicle.Orderly)
    {caller : Nat} {text : Text} {number : Int}
    (was : chronicle.world.callers[caller]? = some (.submitting text number)) :
    (chronicle.move (.caller caller)).Orderly := by
  rcases orderly.call_of was with ⟨call, called⟩
  have isSubmit : call = .submit text number := orderly.staged caller call _ called was
  have agrees := Session.Agrees.parse chronicle.world.session text number
  have reported := orderly.report agrees chronicle.world.printed
  change (chronicle.turned caller (chronicle.world.callerTurn caller).1).Orderly
  cases parsed : (chronicle.world.session.parse text number).2 with
  | error raised =>
      have unread : forall nodes,
          (chronicle.world.session.parse text number).1.reading text ≠ .success nodes := by
        intro nodes reads
        rw [agrees.reading, ← Session.parse_eq_ok_iff _ text number, parsed] at reads
        cases reads
      have concluded := reported.conclude (.raised raised) called was
        (.inr ⟨⟨text, number, isSubmit, unread⟩, raised, rfl⟩) (.inl rfl)
        (fun _ _ impossible => by cases impossible) rfl
      simp only [World.callerTurn, was, parsed]
      rw [turned_eq_inWorld caller]
      · exact concluded
      · rfl
  | ok nodes =>
      have submits : (chronicle.inWorld
          { chronicle.world with session := (chronicle.world.session.parse text number).1 }).Submits
          call ⟨nodes, text, number⟩ := by
        refine ⟨isSubmit, ?_⟩
        change (chronicle.world.session.parse text number).1.reading text = _
        rw [agrees.reading]
        exact (Session.parse_eq_ok_iff _ text number).mp parsed
      have proceeded := reported.proceed ⟨nodes, text, number⟩ called was
        submits rfl (fun _ _ impossible => by cases impossible)
      rw [turned_inWorld caller _ (by rfl) agrees.environment] at proceeded
      simp only [World.callerTurn, was, parsed]
      exact proceeded

theorem Orderly.cancellingTurn {chronicle : Chronicle} (orderly : chronicle.Orderly)
    {caller : Nat} (was : chronicle.world.callers[caller]? = some .cancelling) :
    (chronicle.move (.caller caller)).Orderly := by
  rcases orderly.call_of was with ⟨call, called⟩
  have isCancel : call = .cancel := orderly.staged caller call _ called was
  change (chronicle.turned caller (chronicle.world.callerTurn caller).1).Orderly
  cases flying : chronicle.world.inFlight with
  | some index =>
      simp only [World.callerTurn, was, flying]
      rw [turned_eq_inWorld caller]
      · exact orderly.stop called was flying isCancel rfl
          (fun _ _ impossible => by cases impossible)
      · exact List.length_modify _ _ _
  | none =>
      simp only [World.callerTurn, was, flying]
      rw [turned_eq_inWorld caller]
      · exact orderly.conclude _ called was isCancel (.inl rfl)
          (fun _ _ impossible => by cases impossible) rfl
      · rfl

theorem Orderly.stoppingTurn {chronicle : Chronicle} (orderly : chronicle.Orderly)
    {caller index : Nat} {submission : Option Submission}
    (was : chronicle.world.callers[caller]? = some (.stopping index submission)) :
    (chronicle.move (.caller caller)).Orderly := by
  rcases orderly.call_of was with ⟨call, called⟩
  have staged := orderly.staged caller call _ called was
  change (chronicle.turned caller (chronicle.world.callerTurn caller).1).Orderly
  cases found : chronicle.world.evaluations[index]? with
  | none =>
      simp only [World.callerTurn, was, found]
      rw [turned_eq_inWorld caller rfl]
      exact orderly
  | some evaluating =>
      cases isDone : evaluating.isDone with
      | false =>
          simp only [World.callerTurn, was, found, isDone]
          rw [turned_eq_inWorld caller]
          · exact orderly
          · rfl
      | true =>
          have done : forall other, chronicle.world.evaluations[index]? = some other ->
              other.isDone = true := by
            intro other otherFound
            rw [found] at otherFound
            cases otherFound
            exact isDone
          have kept := forget_agrees chronicle.world index
          have reported := (orderly.forget done).report (Session.Agrees.note _ "session"
            ("cancelled unfinished evaluation in ".toList ++
              (chronicle.world.forget index).session.path))
            (chronicle.world.forget index).reportCancelled.1.printed
          change (chronicle.inWorld
            (chronicle.world.forget index).reportCancelled.1).Orderly at reported
          have stillCalled : (chronicle.world.forget index).reportCancelled.1.callers[caller]? =
              some (.stopping index submission) := by
            rw [← was, ← kept.1]
            rfl
          rw [callerTurn_of_stopped was found isDone]
          cases submission with
          | none =>
              rw [turned_eq_inWorld caller]
              · exact reported.conclude _ called stillCalled staged (.inl rfl)
                  (fun _ _ impossible => by cases impossible) rfl
              · rw [← kept.2.1]
                rfl
          | some submission =>
              have submits : (chronicle.inWorld
                  (chronicle.world.forget index).reportCancelled.1).Submits call submission := by
                refine ⟨staged.1, ?_⟩
                rw [← staged.2, ← kept.2.2]
                rfl
              have proceeded := reported.proceed submission called stillCalled submits rfl
                (fun other _ stops another otherFound => by
                  cases stops
                  refine done another ?_
                  rw [← otherFound, ← kept.2.1]
                  rfl)
              rw [turned_inWorld caller] at proceeded
              · exact proceeded
              · rw [← kept.2.1]
                rfl
              · rw [← kept.2.2]
                rfl

theorem Orderly.awaitingTurn {chronicle : Chronicle} (orderly : chronicle.Orderly)
    {caller index : Nat} (was : chronicle.world.callers[caller]? = some (.awaiting index)) :
    (chronicle.move (.caller caller)).Orderly := by
  rcases orderly.call_of was with ⟨call, called⟩
  have owns : chronicle.Owns caller index := orderly.staged caller call _ called was
  change (chronicle.turned caller (chronicle.world.callerTurn caller).1).Orderly
  cases found : chronicle.world.evaluations[index]? with
  | none =>
      simp only [World.callerTurn, was, found]
      rw [turned_eq_inWorld caller rfl]
      exact orderly
  | some evaluating =>
      have kept := forget_agrees chronicle.world index
      have stillAwaiting : (chronicle.world.forget index).callers[caller]? =
          some (.awaiting index) := by rw [kept.1, was]
      cases progress : evaluating.progress with
      | created nodes =>
          simp only [World.callerTurn, was, found, progress, World.receive]
          rw [turned_eq_inWorld caller rfl]
          exact orderly
      | suspended resume =>
          simp only [World.callerTurn, was, found, progress, World.receive]
          rw [turned_eq_inWorld caller rfl]
          exact orderly
      | cancelled =>
          have concludes : chronicle.Concludes index .cancelled :=
            ⟨evaluating, found, by rw [progress]; rfl⟩
          simp only [World.callerTurn, was, found, progress, World.receive]
          rw [turned_eq_inWorld caller]
          · exact orderly.conclude _ called was (.inl ⟨index, owns, concludes⟩)
              (.inr ⟨index, rfl, concludes⟩) (fun _ _ impossible => by cases impossible) rfl
          · rfl
      | finished outcome =>
          have forgotten : (chronicle.inWorld (chronicle.world.forget index)).Orderly := by
            refine orderly.forget fun other otherFound => ?_
            rw [found] at otherFound
            cases otherFound
            simp [Evaluating.isDone, progress]
          have stillFound : (chronicle.world.forget index).evaluations[index]? =
              some evaluating := by rw [kept.2.1, found]
          cases outcome with
          | fault fault =>
              have concludes : chronicle.Concludes index (.raised (.fault fault)) :=
                ⟨evaluating, found, by rw [progress]; rfl⟩
              simp only [World.callerTurn, was, found, progress, World.receive]
              rw [turned_eq_inWorld caller]
              · exact orderly.conclude _ called was (.inl ⟨index, owns, concludes⟩)
                  (.inr ⟨index, rfl, concludes⟩) (fun _ _ impossible => by cases impossible) rfl
              · rfl
          | failure reason =>
              have raises : ∃ raised, (chronicle.world.forget index).session.conclude
                  (.failure reason) = ((chronicle.world.forget index).session, .error raised) := by
                simp only [Session.conclude, Session.raising]
                split <;> exact ⟨_, rfl⟩
              rcases raises with ⟨raised, concluding⟩
              have concludes : (chronicle.inWorld (chronicle.world.forget index)).Concludes index
                  (.raised raised) :=
                ⟨evaluating, stillFound, by rw [progress]; exact ⟨raised, rfl⟩⟩
              simp only [World.callerTurn, was, found, progress, World.receive, concluding]
              rw [turned_eq_inWorld caller]
              · exact forgotten.conclude _ called stillAwaiting (.inl ⟨index, owns, concludes⟩)
                  (.inr ⟨index, rfl, concludes⟩) (fun _ _ impossible => by cases impossible) rfl
              · rw [← kept.2.1]
                rfl
          | success output =>
              have concludes : (chronicle.inWorld (chronicle.world.forget index)).Concludes index
                  (.output output) := ⟨evaluating, stillFound, by rw [progress]; rfl⟩
              simp only [World.callerTurn, was, found, progress, World.receive, Session.conclude]
              rw [turned_eq_inWorld caller]
              · refine forgotten.setStage (.concluded (.output output)) _ called stillAwaiting
                  (.inl ⟨index, owns, concludes⟩) (.inr ⟨index, _, rfl, rfl, concludes⟩)
                  (fun _ _ impossible => by cases impossible) rfl ⟨rfl, rfl⟩ ?_
                have one := filterMap_set_perm (.concluded (.output output)) stillAwaiting rfl rfl
                exact (forgotten.results.append_right [output]).trans one.symm
              · rw [← kept.2.1]
                rfl

/-- Every turn of a caller keeps the invariant. -/
theorem Orderly.callerTurn {chronicle : Chronicle} (orderly : chronicle.Orderly)
    (caller : Nat) : (chronicle.move (.caller caller)).Orderly := by
  have idle : (chronicle.world.callerTurn caller).1 = chronicle.world ->
      (chronicle.move (.caller caller)).Orderly := by
    intro same
    change (chronicle.turned caller (chronicle.world.callerTurn caller).1).Orderly
    rw [same, turned_eq_inWorld caller rfl]
    exact orderly
  cases was : chronicle.world.callers[caller]? with
  | none => exact idle (by simp only [World.callerTurn, was])
  | some stage =>
      cases stage with
      | submitting text number => exact orderly.submittingTurn was
      | cancelling => exact orderly.cancellingTurn was
      | stopping index submission => exact orderly.stoppingTurn was
      | awaiting index => exact orderly.awaitingTurn was
      | concluded conclusion => exact idle (by simp only [World.callerTurn, was])

/-- A new caller has done nothing yet. -/
theorem Orderly.call {chronicle : Chronicle} (orderly : chronicle.Orderly) (call : Call) :
    (chronicle.move (.call call)).Orderly := by
  have later : chronicle.Extends (chronicle.move (.call call)) :=
    ⟨fun _ _ owns => owns, fun _ _ concludes => concludes, rfl⟩
  have output_none : call.stage.output? = none := by cases call <;> rfl
  have stands {caller : Nat} {stage : Stage} (was : chronicle.world.callers[caller]? = some stage) :
      (chronicle.move (.call call)).world.callers[caller]? = some stage := by
    have bounded := (List.getElem?_eq_some_iff.mp was).1
    exact (List.getElem?_append_left bounded).trans was
  exact
    { records_length := orderly.records_length
      calls_length := by
        simp only [move, World.move, World.addCaller, List.length_append, orderly.calls_length,
          List.length_singleton]
      unfinished := orderly.unfinished
      follows := orderly.follows
      linked := orderly.linked
      submitted := by
        intro index record recorded
        rcases orderly.submitted index record recorded with ⟨text, number, called, reads⟩
        have bounded := (List.getElem?_eq_some_iff.mp called).1
        exact ⟨text, number, (List.getElem?_append_left bounded).trans called, reads⟩
      owned := by
        intro index record recorded
        rcases orderly.owned index record recorded with waits | ⟨told, concluded, concludes⟩
        · exact .inl (stands waits)
        · exact .inr ⟨told, stands concluded, concludes⟩
      staged := by
        intro caller other stage called stage_eq
        rcases getElem?_append_singleton called with old | ⟨rfl, rfl⟩
        · rcases getElem?_append_singleton stage_eq with oldStage | ⟨rfl, rfl⟩
          · exact (orderly.staged caller other stage old oldStage).mono later
          · have bounded := (List.getElem?_eq_some_iff.mp old).1
            have lengths := orderly.calls_length
            omega
        · rcases getElem?_append_singleton stage_eq with oldStage | ⟨_, rfl⟩
          · have bounded := (List.getElem?_eq_some_iff.mp oldStage).1
            have lengths := orderly.calls_length
            omega
          · cases other <;> rfl
      results := by
        simp only [move, World.move, World.addCaller, List.filterMap_append,
          List.filterMap_cons, output_none, List.filterMap_nil, List.append_nil]
        exact orderly.results
      unwanted := orderly.unwanted
      replaced := by
        intro index evaluating found isUnwanted last
        rcases orderly.replaced index evaluating found isUnwanted last with
          cancelled | ⟨other, submission, waits⟩
        · exact .inl (List.mem_append_left _ cancelled)
        · exact .inr ⟨other, submission, stands waits⟩ }

theorem Orderly.move {chronicle : Chronicle} (orderly : chronicle.Orderly) (next : Move) :
    (chronicle.move next).Orderly := by
  cases next with
  | call call => exact orderly.call call
  | caller caller => exact orderly.callerTurn caller
  | evaluation index => exact orderly.evaluationTurn index

theorem orderly_new (handler : Handler) (path : Text) (interactive : Bool) (limits : Limits) :
    (new handler path interactive limits).Orderly := by
  have starts : (new handler path interactive limits).world.session.environment = [] ∧
      (new handler path interactive limits).world.session.results = [] := by
    simp only [new, World.new, Session.start]
    split <;> exact ⟨rfl, rfl⟩
  exact
    { records_length := rfl
      calls_length := rfl
      unfinished := fun _ _ found => by cases found
      follows := fun _ _ _ found => by cases found
      linked := starts.1.symm
      submitted := fun _ _ found => by cases found
      owned := fun _ _ found => by cases found
      staged := fun _ _ _ found => by cases found
      results := by rw [starts.2]; exact .nil
      unwanted := fun _ _ found => by cases found
      replaced := fun _ _ found => by cases found }

/-- The invariant holds at every moment of every session. -/
theorem orderly_after (handler : Handler) (path : Text) (interactive : Bool) (limits : Limits)
    (moves : List Move) : ((new handler path interactive limits).after moves).Orderly :=
  after_induction (orderly_new handler path interactive limits)
    (fun _ orderly next => orderly.move next) moves

end Chronicle

end SequenceCalculator
