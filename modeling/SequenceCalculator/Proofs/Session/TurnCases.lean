import SequenceCalculator.Proofs.Session.Blocking
import SequenceCalculator.Proofs.Session.Turns

namespace SequenceCalculator
namespace World

/-!
# What a turn can do

A turn of a caller ends in one of a few ways, and a turn of an evaluation touches
nothing but that evaluation, the bindings and the journal.  Statements about what
happens over several turns go by these cases and need not follow the definitions
again.
-/

/-- A caller goes on with a submission at its turn: its text is read, or the
evaluation that it had cancelled has stopped. -/
inductive Ready (world : World) (caller : Nat) (submission : Submission) : Prop where
  | read (was : world.callers[caller]? = some (.submitting submission.text submission.number))
      (reads : world.session.reading submission.text = .success submission.nodes)
  | stopped (index : Nat) (evaluating : Evaluating)
      (was : world.callers[caller]? = some (.stopping index (some submission)))
      (found : world.evaluations[index]? = some evaluating) (isDone : evaluating.isDone = true)

/-- The difference is a matter of the journal, of what was printed and of whether an
evaluation that has ended is still known as the current one. -/
structure Resembles (world other : World) : Prop where
  callers : other.callers = world.callers
  evaluations : other.evaluations = world.evaluations
  inFlight : other.inFlight = world.inFlight
  handler : other.session.handler = world.session.handler
  path : other.session.path = world.session.path
  sameKind : world.session.SameKind other.session

/-- The ways in which a turn of a caller can end. -/
inductive CallerCase (world : World) (caller : Nat) : World -> Prop where
  /-- The caller is unknown, has to wait or has nothing left to do. -/
  | rests : CallerCase world caller world
  /-- Its text cannot be read. -/
  | refused {text : Text} {number : Int} {session : Session} {raised : Raised}
      (was : world.callers[caller]? = some (.submitting text number))
      (unread : world.session.parse text number = (session, .error raised)) :
      CallerCase world caller
        ({ world with session := session }.concludeCaller caller (.raised raised))
  /-- Nothing is in flight, so it creates its evaluation. -/
  | creates {submission : Submission} {between : World}
      (ready : world.Ready caller submission) (like : world.Resembles between)
      (idle : world.inFlight = none) :
      CallerCase world caller (between.create caller submission).1
  /-- It asks the evaluation in flight to stop, in order to replace it. -/
  | replaces {submission : Submission} {between : World} {index : Nat}
      (ready : world.Ready caller submission) (like : world.Resembles between)
      (flying : world.inFlight = some index) :
      CallerCase world caller (between.stop caller index (some submission))
  /-- It asks the evaluation in flight to stop, and no more. -/
  | asks {index : Nat} (was : world.callers[caller]? = some .cancelling)
      (flying : world.inFlight = some index) :
      CallerCase world caller (world.stop caller index none)
  /-- It had something to stop if there was anything, and that has stopped. -/
  | stopped {between : World} {running : Bool} {old : Stage}
      (was : world.callers[caller]? = some old)
      (stops : old = .cancelling ∨ ∃ index, old = .stopping index none)
      (like : world.Resembles between) :
      CallerCase world caller (between.concludeCaller caller (.stopped running))
  /-- It takes in the end of its own evaluation. -/
  | received {index : Nat} {evaluating : Evaluating}
      (was : world.callers[caller]? = some (.awaiting index))
      (found : world.evaluations[index]? = some evaluating)
      (isDone : evaluating.isDone = true) :
      CallerCase world caller (world.receive caller index evaluating.progress)

theorem Resembles.refl (world : World) : world.Resembles world :=
  ⟨rfl, rfl, rfl, rfl, rfl, .refl _⟩

/-- What is known about an evaluation that has ended does not matter. -/
theorem inFlight_forget {world : World} {index : Nat} {evaluating : Evaluating}
    (found : world.evaluations[index]? = some evaluating) (isDone : evaluating.isDone = true) :
    (world.forget index).inFlight = world.inFlight := by
  unfold forget
  split
  · next isCurrent => simp only [inFlight, isCurrent, found, isDone, if_true]
  · rfl

theorem resembles_reportCancelled {world : World} {index : Nat} {evaluating : Evaluating}
    (found : world.evaluations[index]? = some evaluating) (isDone : evaluating.isDone = true) :
    world.Resembles (world.forget index).reportCancelled.1 := by
  rcases Chronicle.forget_agrees world index with ⟨callers, evaluations, session⟩
  have kept : (world.forget index).reportCancelled.1.session.handler =
      (world.forget index).session.handler ∧
      (world.forget index).reportCancelled.1.session.path = (world.forget index).session.path ∧
      (world.forget index).session.SameKind (world.forget index).reportCancelled.1.session :=
    ⟨rfl, rfl, rfl, rfl⟩
  rw [session] at kept
  exact ⟨callers, evaluations, inFlight_forget found isDone, kept.1, kept.2.1, kept.2.2⟩

/-- A caller that is ready goes on with its submission. -/
theorem move_of_ready {world : World} {caller : Nat} {submission : Submission}
    (ready : world.Ready caller submission) :
    ∃ between, world.Resembles between ∧
      world.move (.caller caller) = (between.proceed caller submission).1 := by
  change ∃ between, _ ∧ (world.callerTurn caller).1 = _
  cases ready with
  | read was reads =>
      simp only [callerTurn, was, Session.parse_of_success submission.number reads]
      exact ⟨{ world with session := world.session.note _ _ },
        ⟨rfl, rfl, rfl, rfl, rfl, ⟨rfl, rfl⟩⟩, rfl⟩
  | stopped index evaluating was found isDone =>
      rw [Chronicle.callerTurn_of_stopped was found isDone]
      exact ⟨_, resembles_reportCancelled found isDone, rfl⟩

theorem caller_cases_of_ready {world : World} {caller : Nat} {submission : Submission}
    (ready : world.Ready caller submission) :
    world.CallerCase caller (world.move (.caller caller)) := by
  rcases move_of_ready ready with ⟨between, like, moved⟩
  rw [moved, proceed, like.inFlight]
  cases flying : world.inFlight with
  | none => exact .creates ready like flying
  | some index => exact .replaces ready like flying

/-- Every turn of a caller ends in one of the ways. -/
theorem caller_cases (world : World) (caller : Nat) :
    world.CallerCase caller (world.move (.caller caller)) := by
  have rests (same : (world.callerTurn caller).1 = world) :
      world.CallerCase caller (world.move (.caller caller)) := by
    change world.CallerCase caller (world.callerTurn caller).1
    rw [same]
    exact .rests
  cases was : world.callers[caller]? with
  | none => exact rests (by simp only [callerTurn, was])
  | some stage =>
      cases stage with
      | concluded conclusion => exact rests (by simp only [callerTurn, was])
      | submitting text number =>
          rcases parsed : world.session.parse text number with ⟨session, result⟩
          cases result with
          | error raised =>
              simp only [move, callerTurn, was, parsed]
              exact .refused was parsed
          | ok nodes =>
              have reads : world.session.reading text = .success nodes :=
                (Session.parse_eq_ok_iff _ text number).mp (by rw [parsed])
              exact @caller_cases_of_ready world caller ⟨nodes, text, number⟩ (.read was reads)
      | cancelling =>
          cases flying : world.inFlight with
          | none =>
              simp only [move, callerTurn, was, flying]
              exact .stopped was (.inl rfl) (.refl world)
          | some index =>
              simp only [move, callerTurn, was, flying]
              exact .asks was flying
      | stopping index submission =>
          cases found : world.evaluations[index]? with
          | none => exact rests (by simp only [callerTurn, was, found])
          | some evaluating =>
              cases isDone : evaluating.isDone with
              | false => exact rests (by simp [callerTurn, was, found, isDone])
              | true =>
                  cases submission with
                  | none =>
                      rw [move, Chronicle.callerTurn_of_stopped was found isDone]
                      exact .stopped was (.inr ⟨index, rfl⟩)
                        (resembles_reportCancelled found isDone)
                  | some submission =>
                      exact caller_cases_of_ready (.stopped index evaluating was found isDone)
      | awaiting index =>
          cases found : world.evaluations[index]? with
          | none => exact rests (by simp only [callerTurn, was, found])
          | some evaluating =>
              cases isDone : evaluating.isDone with
              | true =>
                  simp only [move, callerTurn, was, found]
                  exact .received was found isDone
              | false =>
                  refine rests ?_
                  simp only [callerTurn, was, found]
                  cases progress : evaluating.progress with
                  | created nodes => rfl
                  | suspended resume => rfl
                  | finished outcome => simp [Evaluating.isDone, progress] at isDone
                  | cancelled => simp [Evaluating.isDone, progress] at isDone

/-!
## What turns leave alone
-/

/-- Taking in the end of an evaluation concludes the work of its caller. -/
theorem receive_frame (world : World) (caller index : Nat) {evaluating : Evaluating}
    (isDone : evaluating.isDone = true) :
    (∃ conclusion, (world.receive caller index evaluating.progress).callers =
      world.callers.set caller (.concluded conclusion)) ∧
    (world.receive caller index evaluating.progress).evaluations = world.evaluations ∧
    (world.receive caller index evaluating.progress).session.path = world.session.path ∧
    world.session.SameKind (world.receive caller index evaluating.progress).session := by
  rcases Chronicle.forget_agrees world index with ⟨callers, evaluations, session⟩
  cases progress : evaluating.progress with
  | created nodes => simp [Evaluating.isDone, progress] at isDone
  | suspended resume => simp [Evaluating.isDone, progress] at isDone
  | cancelled => exact ⟨⟨_, rfl⟩, rfl, rfl, .refl _⟩
  | finished outcome =>
      cases outcome with
      | fault fault => exact ⟨⟨_, rfl⟩, rfl, rfl, .refl _⟩
      | failure reason =>
          simp only [receive, Session.conclude, concludeCaller, setStage, callers, evaluations,
            session, true_and]
          exact ⟨⟨_, rfl⟩, rfl, rfl⟩
      | success output =>
          simp only [receive, Session.conclude, concludeCaller, setStage, callers, evaluations,
            session, true_and]
          exact ⟨⟨_, rfl⟩, rfl, rfl⟩

theorem announce_frame (session : Session) (text : Text) (number : Int) :
    (session.announce text number).path = session.path ∧
      session.SameKind (session.announce text number) := by
  refine ⟨?_, (Session.Agrees.announce session text number).toSameKind⟩
  unfold Session.announce
  split <;> rfl

/-- What every turn of a caller leaves alone. -/
theorem CallerCase.frame {world after : World} {caller : Nat}
    (turn : world.CallerCase caller after) :
    (after.callers = world.callers ∨ ∃ stage, after.callers = world.callers.set caller stage) ∧
    after.session.path = world.session.path ∧ world.session.SameKind after.session := by
  cases turn with
  | rests => exact ⟨.inl rfl, rfl, .refl _⟩
  | @refused text number session raised was unread =>
      have path : (world.session.parse text number).1.path = world.session.path := by
        unfold Session.parse
        dsimp only
        split <;> rfl
      have sameKind := (Session.Agrees.parse world.session text number).toSameKind
      rw [unread] at path sameKind
      exact ⟨.inr ⟨_, rfl⟩, path, sameKind⟩
  | @creates submission between ready like idle =>
      have kept := announce_frame between.session submission.text submission.number
      refine ⟨.inr ⟨_, congrArg (List.set · caller _) like.callers⟩, ?_, ?_⟩
      · exact kept.1.trans like.path
      · exact like.sameKind.trans kept.2
  | replaces ready like flying =>
      exact ⟨.inr ⟨_, congrArg (List.set · caller _) like.callers⟩, like.path, like.sameKind⟩
  | asks was flying => exact ⟨.inr ⟨_, rfl⟩, rfl, .refl _⟩
  | stopped was stops like =>
      exact ⟨.inr ⟨_, congrArg (List.set · caller _) like.callers⟩, like.path, like.sameKind⟩
  | received was found isDone =>
      rcases receive_frame world caller _ isDone with ⟨⟨conclusion, callers⟩, _, path, sameKind⟩
      exact ⟨.inr ⟨_, callers⟩, path, sameKind⟩

/-- A turn of an evaluation changes that evaluation only, and not whether it is
wanted. -/
theorem evaluation_frame (world : World) (index : Nat) :
    (∃ change : Evaluating -> Evaluating,
      (world.move (.evaluation index)).evaluations = world.evaluations.modify index change ∧
      forall evaluating, (change evaluating).unwanted = evaluating.unwanted) ∧
    (world.move (.evaluation index)).callers = world.callers ∧
    (world.move (.evaluation index)).session.handler = world.session.handler ∧
    (world.move (.evaluation index)).session.path = world.session.path ∧
    world.session.SameKind (world.move (.evaluation index)).session := by
  have unchanged : ∃ change : Evaluating -> Evaluating,
      world.evaluations = world.evaluations.modify index change ∧
      forall evaluating, (change evaluating).unwanted = evaluating.unwanted :=
    ⟨id, (List.modify_id _ _).symm, fun _ => rfl⟩
  have advances (begun : World) (watchers : List Watcher) (activity : Activity Text)
      (evaluations : begun.evaluations = world.evaluations)
      (callers : begun.callers = world.callers)
      (handler : begun.session.handler = world.session.handler)
      (path : begun.session.path = world.session.path)
      (sameKind : world.session.SameKind begun.session) :
      (∃ change : Evaluating -> Evaluating,
        (begun.advance index watchers activity).1.evaluations =
          world.evaluations.modify index change ∧
        forall evaluating, (change evaluating).unwanted = evaluating.unwanted) ∧
      (begun.advance index watchers activity).1.callers = world.callers ∧
      (begun.advance index watchers activity).1.session.handler = world.session.handler ∧
      (begun.advance index watchers activity).1.session.path = world.session.path ∧
      world.session.SameKind (begun.advance index watchers activity).1.session := by
    cases activity with
    | suspended environment resume =>
        exact ⟨⟨_, congrArg (List.modify · index _) evaluations, fun _ => rfl⟩, callers, handler,
          path, sameKind.interactive, sameKind.limits⟩
    | finished environment outcome =>
        refine ⟨⟨_, congrArg (List.modify · index _) evaluations, fun _ => rfl⟩, callers, ?_⟩
        cases outcome with
        | success output => exact ⟨handler, path, sameKind.interactive, sameKind.limits⟩
        | failure reason => exact ⟨handler, path, sameKind.interactive, sameKind.limits⟩
        | fault fault => exact ⟨handler, path, sameKind.interactive, sameKind.limits⟩
  simp only [move, evaluationTurn]
  split
  · exact ⟨unchanged, rfl, rfl, rfl, .refl _⟩
  · split
    · exact ⟨unchanged, rfl, rfl, rfl, .refl _⟩
    · split
      · exact ⟨⟨_, rfl, fun _ => rfl⟩, rfl, rfl, rfl, .refl _⟩
      · split
        · exact advances _ _ _ rfl rfl rfl rfl ⟨rfl, rfl⟩
        · exact advances _ _ _ rfl rfl rfl rfl (.refl _)
        · exact ⟨unchanged, rfl, rfl, rfl, .refl _⟩

/-- No move renames the session or changes what kind of texts it takes. -/
theorem session_move (world : World) (next : Move) :
    (world.move next).session.path = world.session.path ∧
      world.session.SameKind (world.move next).session := by
  cases next with
  | call call => exact ⟨rfl, .refl _⟩
  | caller caller => exact (caller_cases world caller).frame.2
  | evaluation index => exact (evaluation_frame world index).2.2.2

/-- A caller stays where it is unless it has a turn. -/
theorem callers_move_of_ne {world : World} {next : Move} {caller : Nat} {stage : Stage}
    (was : world.callers[caller]? = some stage) (different : next ≠ .caller caller) :
    (world.move next).callers[caller]? = some stage := by
  cases next with
  | call call =>
      have bounded := (List.getElem?_eq_some_iff.mp was).1
      exact (List.getElem?_append_left bounded).trans was
  | caller other =>
      rcases (caller_cases world other).frame.1 with same | ⟨stage, changed⟩
      · rw [same, was]
      · have apart : other ≠ caller := fun same => different (congrArg Move.caller same)
        rw [changed, List.getElem?_set_ne apart, was]
  | evaluation index => rw [(evaluation_frame world index).2.1, was]

/-!
## The creation of evaluations
-/

/-- At its turn a caller creates an evaluation. -/
def Creates (world : World) (caller index : Nat) : Prop :=
  world.evaluations.length = index ∧
    (world.move (.caller caller)).evaluations.length = index + 1

instance (world : World) (caller index : Nat) : Decidable (world.Creates caller index) :=
  inferInstanceAs (Decidable (_ ∧ _))

/-- A caller creates an evaluation only if it is ready and nothing is in flight. -/
theorem Creates.created {world : World} {caller index : Nat}
    (creates : world.Creates caller index) :
    ∃ submission between, world.Ready caller submission ∧ world.Resembles between ∧
      world.inFlight = none ∧
      world.move (.caller caller) = (between.create caller submission).1 := by
  rcases creates with ⟨before, grown⟩
  have turn := caller_cases world caller
  generalize world.move (.caller caller) = after at turn grown
  have impossible (same : after.evaluations.length = world.evaluations.length) : False := by
    omega
  cases turn with
  | creates ready like idle => exact ⟨_, _, ready, like, idle, rfl⟩
  | rests => exact (impossible rfl).elim
  | refused was unread => exact (impossible rfl).elim
  | replaces ready like flying =>
      refine (impossible ?_).elim
      rw [← like.evaluations]
      exact List.length_modify _ _ _
  | asks was flying => exact (impossible (List.length_modify _ _ _)).elim
  | stopped was stops like => exact (impossible (congrArg List.length like.evaluations)).elim
  | received was found isDone =>
      exact (impossible (congrArg List.length
        (receive_frame world caller _ isDone).2.1)).elim

/-- A move creates at most one evaluation and takes none away. -/
theorem length_evaluations_move (world : World) (next : Move) :
    world.evaluations.length ≤ (world.move next).evaluations.length ∧
      (world.move next).evaluations.length ≤ world.evaluations.length + 1 := by
  have kept {after : World} (same : after.evaluations.length = world.evaluations.length) :
      world.evaluations.length ≤ after.evaluations.length ∧
        after.evaluations.length ≤ world.evaluations.length + 1 := by omega
  cases next with
  | call call => exact kept rfl
  | evaluation index =>
      rcases (evaluation_frame world index).1 with ⟨change, changed, _⟩
      exact kept (by rw [changed, List.length_modify])
  | caller caller =>
      have turn := caller_cases world caller
      generalize world.move (.caller caller) = after at turn
      cases turn with
      | rests => exact kept rfl
      | refused was unread => exact kept rfl
      | @creates submission between ready like idle =>
          have grown : (between.create caller submission).1.evaluations.length =
              between.evaluations.length + 1 := List.length_append
          rw [grown, like.evaluations]
          exact ⟨Nat.le_succ _, Nat.le_refl _⟩
      | replaces ready like flying =>
          refine kept ?_
          rw [← like.evaluations]
          exact List.length_modify _ _ _
      | asks was flying => exact kept (List.length_modify _ _ _)
      | stopped was stops like => exact kept (congrArg List.length like.evaluations)
      | received was found isDone =>
          exact kept (congrArg List.length (receive_frame world caller _ isDone).2.1)

end World

/-- The call that a move is, if it is one. -/
def Move.call? : Move -> Option Call
  | .call made => some made
  | _ => none

namespace Chronicle

/-!
## The course of a session
-/

theorem after_append (chronicle : Chronicle) (before rest : List Move) :
    chronicle.after (before ++ rest) = (chronicle.after before).after rest :=
  List.foldl_append

theorem calls_after (chronicle : Chronicle) (moves : List Move) :
    (chronicle.after moves).calls = chronicle.calls ++ moves.filterMap Move.call? := by
  induction moves generalizing chronicle with
  | nil => exact (List.append_nil _).symm
  | cons next rest inductionHypothesis =>
      refine (inductionHypothesis (chronicle.move next)).trans ?_
      cases next with
      | call call => simp only [move, Move.call?, List.filterMap_cons, List.append_assoc,
          List.singleton_append]
      | caller caller => rfl
      | evaluation index => rfl

/-- A call that was made stays what it is. -/
theorem getElem?_calls_after {chronicle : Chronicle} {caller : Nat} {call : Call}
    (called : chronicle.calls[caller]? = some call) (moves : List Move) :
    (chronicle.after moves).calls[caller]? = some call := by
  rw [calls_after, List.getElem?_append_left (List.getElem?_eq_some_iff.mp called).1, called]

theorem sameKind_after (chronicle : Chronicle) (moves : List Move) :
    chronicle.world.session.SameKind (chronicle.after moves).world.session := by
  induction moves generalizing chronicle with
  | nil => exact .refl _
  | cons next rest inductionHypothesis =>
      exact (World.session_move chronicle.world next).2.trans
        (inductionHypothesis (chronicle.move next))

theorem interactive_new (handler : Handler) (path : Text) (interactive : Bool) (limits : Limits)
    (moves : List Move) :
    ((new handler path interactive limits).after moves).world.session.interactive =
      interactive := by
  rw [(sameKind_after _ moves).interactive]
  simp only [new, World.new, Session.start]
  split <;> rfl

theorem limits_new (handler : Handler) (path : Text) (interactive : Bool) (limits : Limits)
    (moves : List Move) :
    ((new handler path interactive limits).after moves).world.session.limits = limits := by
  rw [(sameKind_after _ moves).limits]
  simp only [new, World.new, Session.start]
  split <;> rfl

/-- The session of a terminal. -/
def terminal : Chronicle := new (Handler.new false false) Session.terminalName true .standard

/-- What is not so at first but is in the end has come about at one of the moves. -/
theorem exists_turning (holds : Chronicle -> Prop) (start : Chronicle) (moves : List Move)
    (initially : ¬ holds start) (finally_ : holds (start.after moves)) :
    ∃ before next rest, moves = before ++ next :: rest ∧ ¬ holds (start.after before) ∧
      holds ((start.after before).move next) := by
  induction moves generalizing start with
  | nil => exact absurd finally_ initially
  | cons first rest inductionHypothesis =>
      by_cases already : holds (start.move first)
      · exact ⟨[], first, rest, rfl, initially, already⟩
      · rcases inductionHypothesis (start.move first) already finally_ with
          ⟨before, next, others, split, unheld, held⟩
        exact ⟨first :: before, next, others, congrArg (first :: ·) split, unheld, held⟩

/-- An evaluation stays with the caller that has created it. -/
theorem Owns.move {chronicle : Chronicle} {caller index : Nat}
    (owns : chronicle.Owns caller index) (next : Move) :
    (chronicle.move next).Owns caller index := by
  rcases owns with ⟨record, recorded, isCaller⟩
  have bounded := (List.getElem?_eq_some_iff.mp recorded).1
  cases next with
  | call call => exact ⟨record, recorded, isCaller⟩
  | caller other =>
      refine ⟨record, ?_, isCaller⟩
      simp only [Chronicle.move, recordsAfter]
      split
      · rw [List.getElem?_append_left bounded, recorded]
      · exact recorded
  | evaluation other =>
      simp only [Owns, Chronicle.move]
      split
      · rw [List.getElem?_modify, recorded]
        refine ⟨_, rfl, ?_⟩
        split <;> exact isCaller
      · exact ⟨record, recorded, isCaller⟩

theorem Owns.after {chronicle : Chronicle} {caller index : Nat}
    (owns : chronicle.Owns caller index) (moves : List Move) :
    (chronicle.after moves).Owns caller index :=
  @after_induction (fun later => later.Owns caller index) chronicle owns
    (fun _ kept next => kept.move next) moves

/-- Who comes to own an evaluation has created it at its turn. -/
theorem Orderly.creates_of_owns {chronicle : Chronicle} (orderly : chronicle.Orderly)
    {next : Move} {caller index : Nat} (owns : (chronicle.move next).Owns caller index)
    (before : ¬ chronicle.Owns caller index) :
    next = .caller caller ∧ chronicle.world.Creates caller index := by
  rcases owns with ⟨record, recorded, isCaller⟩
  cases next with
  | call call => exact absurd ⟨record, recorded, isCaller⟩ before
  | evaluation other =>
      refine absurd ?_ before
      simp only [Chronicle.move] at recorded
      split at recorded
      · rcases getElem?_modify_cases recorded with ⟨rfl, old, was, rfl⟩ | ⟨_, was⟩
        · exact ⟨old, was, isCaller⟩
        · exact ⟨record, was, isCaller⟩
      · exact ⟨record, recorded, isCaller⟩
  | caller other =>
      simp only [Chronicle.move, recordsAfter] at recorded
      split at recorded
      · next nodes unwanted watchers created =>
        rcases getElem?_append_singleton recorded with was | ⟨isIndex, rfl⟩
        · exact absurd ⟨record, was, isCaller⟩ before
        · obtain rfl : other = caller := isCaller
          rw [orderly.records_length] at isIndex
          refine ⟨rfl, isIndex.symm, ?_⟩
          have grown := (List.getElem?_eq_some_iff.mp created).1
          have atMost := (World.length_evaluations_move chronicle.world (.caller other)).2
          omega
      · exact absurd ⟨record, recorded, isCaller⟩ before

end Chronicle
end SequenceCalculator
