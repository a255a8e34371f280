import SequenceCalculator.Proofs.Session.Serialized
import SequenceCalculator.Proofs.Session.TurnCases
import SequenceCalculator.Session.Schedule

namespace SequenceCalculator

/-!
# Which submission cancels which

A caller that creates its evaluation has done all that it will ever do to others:
from then on it only waits.  So an evaluation is cancelled by callers that have
not got as far when it is created.  One of them may well have called earlier.  It
is then ready to go on at that moment, but the other one is given its turn first
and overtakes it.
-/

namespace World

/-- Whether a caller has not got as far as an evaluation of its own. -/
def IsEarly (world : World) (caller : Nat) : Prop :=
  ∃ stage, world.callers[caller]? = some stage ∧ stage.isEarly = true

/-- A caller could go on with its text if it were given a turn. -/
def IsReady (world : World) (caller : Nat) : Prop :=
  ∃ submission, world.Ready caller submission

/-- The evaluation for whose end a caller waits before it goes on. -/
def stopping? (world : World) (caller : Nat) : Option Nat :=
  match world.callers[caller]? with
  | some (.stopping index _) => some index
  | _ => none

/-- At its turn a caller asks an evaluation to stop. -/
def Stops (world : World) (caller index : Nat) : Prop :=
  world.stopping? caller ≠ some index ∧
    (world.move (.caller caller)).stopping? caller = some index

instance (world : World) (caller index : Nat) : Decidable (world.Stops caller index) :=
  inferInstanceAs (Decidable (_ ∧ _))

theorem Ready.isEarly {world : World} {caller : Nat} {submission : Submission}
    (ready : world.Ready caller submission) : world.IsEarly caller := by
  cases ready with
  | read was reads => exact ⟨_, was, rfl⟩
  | stopped index evaluating was found isDone => exact ⟨_, was, rfl⟩

/-!
## Turns at which something is created or asked to stop
-/

theorem length_callers_le (world : World) (next : Move) :
    world.callers.length ≤ (world.move next).callers.length := by
  cases next with
  | call call =>
      have grown : (world.move (.call call)).callers.length = world.callers.length + 1 :=
        List.length_append
      omega
  | caller caller =>
      rcases (caller_cases world caller).frame.1 with same | ⟨stage, changed⟩
      · exact Nat.le_of_eq (congrArg List.length same).symm
      · rw [changed, List.length_set]
  | evaluation index =>
      exact Nat.le_of_eq (congrArg List.length (evaluation_frame world index).2.1).symm

theorem stopping?_stop {world : World} {caller index : Nat} {submission : Option Submission}
    (inside : caller < world.callers.length) :
    (world.stop caller index submission).stopping? caller = some index := by
  have stands : (world.stop caller index submission).callers[caller]? =
      some (.stopping index submission) := List.getElem?_set_self inside
  simp only [stopping?, stands]

theorem IsEarly.inside {world : World} {caller : Nat} (early : world.IsEarly caller) :
    caller < world.callers.length := by
  rcases early with ⟨stage, was, _⟩
  exact (List.getElem?_eq_some_iff.mp was).1

/-- What is in flight has not ended, so a caller that is ready does not wait for it. -/
theorem Ready.stopping?_ne {world : World} {caller index : Nat} {submission : Submission}
    (ready : world.Ready caller submission) (flying : world.inFlight = some index) :
    world.stopping? caller ≠ some index := by
  cases ready with
  | read was reads => simp [stopping?, was]
  | stopped ended evaluating was found isDone =>
      rcases Chronicle.inFlight_eq_some flying with ⟨another, isAnother, unfinished⟩
      simp only [stopping?, was, ne_eq, Option.some_inj]
      rintro rfl
      rw [found] at isAnother
      cases isAnother
      rw [isDone] at unfinished
      cases unfinished

/-- A caller that is ready asks what is in flight to stop. -/
theorem Ready.stops {world : World} {caller index : Nat} {submission : Submission}
    (ready : world.Ready caller submission) (flying : world.inFlight = some index) :
    world.Stops caller index := by
  refine ⟨ready.stopping?_ne flying, ?_⟩
  rcases move_of_ready ready with ⟨between, like, moved⟩
  rw [moved, proceed, like.inFlight, flying]
  apply stopping?_stop
  rw [like.callers]
  exact ready.isEarly.inside

/-- So does one that was to cancel it. -/
theorem stops_of_cancelling {world : World} {caller index : Nat}
    (was : world.callers[caller]? = some .cancelling) (flying : world.inFlight = some index) :
    world.Stops caller index := by
  refine ⟨by simp [stopping?, was], ?_⟩
  have moved : world.move (.caller caller) = world.stop caller index none := by
    simp only [move, callerTurn, was, flying]
  rw [moved]
  exact stopping?_stop (List.getElem?_eq_some_iff.mp was).1

/-- Only a caller without an evaluation of its own asks another one to stop, and
that one is in flight. -/
theorem Stops.stopped {world : World} {caller index : Nat} (stops : world.Stops caller index) :
    world.inFlight = some index ∧ world.IsEarly caller ∧
      ∃ submission, (world.move (.caller caller)).callers[caller]? =
        some (.stopping index submission) := by
  rcases stops with ⟨before, afterwards⟩
  have waits : ∃ submission, (world.move (.caller caller)).callers[caller]? =
      some (.stopping index submission) := by
    unfold stopping? at afterwards
    split at afterwards
    · next found =>
      cases afterwards
      exact ⟨_, found⟩
    · cases afterwards
  rcases waits with ⟨submission, waits⟩
  have turn := caller_cases world caller
  generalize world.move (.caller caller) = after at turn waits
  have gone {stage : Stage} {stages : List Stage} (set : after.callers = stages.set caller stage) :
      stage = .stopping index submission := by
    rw [set] at waits
    rcases Chronicle.getElem?_set_cases waits with ⟨_, same⟩ | ⟨different, _⟩
    · exact same.symm
    · exact absurd rfl different
  cases turn with
  | rests =>
      refine absurd ?_ before
      simp only [stopping?, waits]
  | refused was unread => cases gone rfl
  | creates ready like idle => cases gone rfl
  | replaces ready like flying =>
      cases gone rfl
      exact ⟨flying, ready.isEarly, _, waits⟩
  | asks was flying =>
      cases gone rfl
      exact ⟨flying, ⟨_, was, rfl⟩, _, waits⟩
  | stopped was stops like => cases gone rfl
  | received was found isDone =>
      rcases (receive_frame world caller _ isDone).1 with ⟨conclusion, set⟩
      cases gone set

/-- An evaluation that is not wanted any more was asked to stop by the caller that
had the turn. -/
theorem stops_of_unwanted {world : World} {next : Move} {index : Nat} {evaluating : Evaluating}
    (found : (world.move next).evaluations[index]? = some evaluating)
    (isUnwanted : evaluating.unwanted = true)
    (wanted : forall before, world.evaluations[index]? = some before -> before.unwanted = false) :
    ∃ caller, next = .caller caller ∧ world.Stops caller index := by
  have kept (same : world.evaluations[index]? = some evaluating) : False := by
    rw [wanted evaluating same] at isUnwanted
    cases isUnwanted
  cases next with
  | call call => exact (kept found).elim
  | evaluation other =>
      rcases (evaluation_frame world other).1 with ⟨change, changed, unwanted_eq⟩
      rw [changed] at found
      rcases Chronicle.getElem?_modify_cases found with ⟨rfl, before, was, rfl⟩ | ⟨_, same⟩
      · rw [unwanted_eq, wanted before was] at isUnwanted
        cases isUnwanted
      · exact (kept same).elim
  | caller caller =>
      refine ⟨caller, rfl, ?_⟩
      have turn := caller_cases world caller
      generalize world.move (.caller caller) = after at turn found
      cases turn with
      | rests => exact (kept found).elim
      | refused was unread => exact (kept found).elim
      | creates ready like idle =>
          rcases Chronicle.getElem?_append_singleton found with same | ⟨_, rfl⟩
          · rw [like.evaluations] at same
            exact (kept same).elim
          · cases isUnwanted
      | replaces ready like flying =>
          rcases Chronicle.getElem?_modify_cases found with ⟨rfl, _⟩ | ⟨_, before⟩
          · exact ready.stops flying
          · rw [like.evaluations] at before
            exact (kept before).elim
      | asks was flying =>
          rcases Chronicle.getElem?_modify_cases found with ⟨rfl, _⟩ | ⟨_, before⟩
          · exact stops_of_cancelling was flying
          · exact (kept before).elim
      | stopped was stops like =>
          refine (kept ?_).elim
          rw [← like.evaluations]
          exact found
      | received was ending isDone =>
          rw [(receive_frame world caller _ isDone).2.1] at found
          exact (kept found).elim

/-- Who is early after a move was early before it, unless it is new. -/
theorem isEarly_of_move {world : World} {next : Move} {caller : Nat}
    (inside : caller < world.callers.length) (early : (world.move next).IsEarly caller) :
    world.IsEarly caller := by
  have found := List.getElem?_eq_getElem inside
  rcases early with ⟨stage, stands, isEarly⟩
  by_cases different : next = .caller caller
  · subst different
    have turn := caller_cases world caller
    generalize world.move (.caller caller) = after at turn stands
    cases turn with
    | rests => exact ⟨stage, stands, isEarly⟩
    | refused was unread => exact ⟨_, was, rfl⟩
    | creates ready like idle => exact ready.isEarly
    | replaces ready like flying => exact ready.isEarly
    | asks was flying => exact ⟨_, was, rfl⟩
    | stopped was stops like =>
        rcases stops with rfl | ⟨index, rfl⟩
        · exact ⟨_, was, rfl⟩
        · exact ⟨_, was, rfl⟩
    | received was ending isDone =>
        rcases (receive_frame world caller _ isDone).1 with ⟨conclusion, set⟩
        rw [set, List.getElem?_set_self inside] at stands
        cases stands
        cases isEarly
  · rw [callers_move_of_ne found different] at stands
    cases stands
    exact ⟨_, found, isEarly⟩

/-- Whoever waits for an evaluation to stop waits for one that exists. -/
theorem bounded_of_move {world : World} {next : Move}
    (bounded : forall caller index, world.stopping? caller = some index ->
      index < world.evaluations.length)
    (caller index : Nat) (waits : (world.move next).stopping? caller = some index) :
    index < (world.move next).evaluations.length := by
  refine Nat.lt_of_lt_of_le ?_ (length_evaluations_move world next).1
  by_cases already : world.stopping? caller = some index
  · exact bounded caller index already
  · by_cases same : next = .caller caller
    · subst same
      have stops : world.Stops caller index := ⟨already, waits⟩
      rcases Chronicle.inFlight_eq_some stops.stopped.1 with ⟨_, found, _⟩
      exact (List.getElem?_eq_some_iff.mp found).1
    · -- Nobody comes to wait without a turn.
      refine absurd ?_ already
      cases was : world.callers[caller]? with
      | some stage =>
          simp only [stopping?, callers_move_of_ne was same] at waits
          simp only [stopping?, was, waits]
      | none =>
          have outside := List.getElem?_eq_none_iff.mp was
          cases next with
          | call call =>
              unfold stopping? at waits
              split at waits
              · next found =>
                rcases Chronicle.getElem?_append_singleton found with old | ⟨_, stage⟩
                · rw [was] at old
                  cases old
                · cases call <;> cases stage
              · cases waits
          | evaluation other =>
              simp [stopping?, (evaluation_frame world other).2.1, was] at waits
          | caller other =>
              have gone : (world.move (.caller other)).callers[caller]? = none := by
                rcases (caller_cases world other).frame.1 with kept | ⟨stage, set⟩
                · rw [kept, was]
                · rw [set, List.getElem?_eq_none_iff, List.length_set]
                  exact outside
              simp [stopping?, gone] at waits

end World

namespace Chronicle

/-!
## The course of a session
-/

theorem isEarly_of_after {chronicle : Chronicle} {moves : List Move} {caller : Nat}
    (inside : caller < chronicle.world.callers.length)
    (early : (chronicle.after moves).world.IsEarly caller) :
    chronicle.world.IsEarly caller := by
  induction moves generalizing chronicle with
  | nil => exact early
  | cons next rest inductionHypothesis =>
      refine World.isEarly_of_move inside (inductionHypothesis ?_ early)
      exact Nat.lt_of_lt_of_le inside (World.length_callers_le chronicle.world next)

/-- A caller stays where it is as long as it has no turn. -/
theorem callers_after_of_not_mem {chronicle : Chronicle} {moves : List Move} {caller : Nat}
    {stage : Stage} (was : chronicle.world.callers[caller]? = some stage)
    (idle : .caller caller ∉ moves) :
    (chronicle.after moves).world.callers[caller]? = some stage := by
  induction moves generalizing chronicle with
  | nil => exact was
  | cons next rest inductionHypothesis =>
      rcases List.ne_and_not_mem_of_not_mem_cons idle with ⟨different, later⟩
      exact inductionHypothesis (World.callers_move_of_ne was (Ne.symm different)) later

/-!
## Replacements
-/

theorem bounded_after (handler : Handler) (path : Text) (interactive : Bool) (limits : Limits)
    (moves : List Move) (caller index : Nat)
    (waits : ((new handler path interactive limits).after moves).world.stopping? caller =
      some index) :
    index < ((new handler path interactive limits).after moves).world.evaluations.length :=
  @after_induction (fun chronicle => forall caller index,
      chronicle.world.stopping? caller = some index ->
      index < chronicle.world.evaluations.length) (new handler path interactive limits)
    (fun _ _ impossible => by cases impossible)
    (fun _ bounded _ => World.bounded_of_move bounded) moves caller index waits

/-- While nothing is in flight, a caller with a readable text that has not got as far
as an evaluation could go on if it had a turn. -/
theorem Orderly.isReady {chronicle : Chronicle} (orderly : chronicle.Orderly)
    (bounded : forall caller index, chronicle.world.stopping? caller = some index ->
      index < chronicle.world.evaluations.length)
    (idle : chronicle.world.inFlight = none) {caller : Nat} {text : Text} {number : Int}
    {nodes : List Node} (called : chronicle.calls[caller]? = some (.submit text number))
    (reads : chronicle.world.session.reading text = .success nodes)
    (early : chronicle.world.IsEarly caller) : chronicle.world.IsReady caller := by
  rcases early with ⟨stage, was, isEarly⟩
  have staged := orderly.staged caller _ stage called was
  match stage with
  | .submitting line first =>
      cases staged
      exact ⟨⟨nodes, text, number⟩, .read was reads⟩
  | .cancelling => cases staged
  | .stopping index none => cases staged
  | .stopping index (some submission) =>
      have exists_ := List.getElem?_eq_getElem
        (bounded caller index (by simp only [World.stopping?, was]))
      exact ⟨submission, .stopped index _ was exists_
        (orderly.isDone_of_inFlight_none idle exists_)⟩
  | .awaiting index => cases isEarly
  | .concluded conclusion => cases isEarly

/-- An evaluation is created at one turn of its owner and asked to stop at a later
turn of somebody. -/
structure Replacement (start : Chronicle) (moves : List Move) where
  before : List Move
  owner : Nat
  between : List Move
  stopper : Nat
  rest : List Move
  index : Nat
  split : moves = before ++ .caller owner :: (between ++ .caller stopper :: rest)
  creates : (start.after before).world.Creates owner index
  stops : (start.after (before ++ .caller owner :: between)).world.Stops stopper index

namespace Replacement

variable {handler : Handler} {path : Text} {interactive : Bool} {limits : Limits}
  {moves : List Move}

/-- The calls that are known after the first moves are those known in the end. -/
theorem calls_of_split {start : Chronicle} {before rest : List Move}
    (split : moves = before ++ rest) {caller : Nat} {call : Call}
    (inside : caller < (start.after before).calls.length)
    (called : (start.after moves).calls[caller]? = some call) :
    (start.after before).calls[caller]? = some call := by
  have known := List.getElem?_eq_getElem inside
  have kept := getElem?_calls_after known rest
  rw [← after_append, ← split, called] at kept
  rw [known, kept]

/-- Whoever asks to stop without having called to cancel has a text that reads. -/
theorem exists_text (noCancel : .call .cancel ∉ moves)
    (replacement : Replacement (new handler path interactive limits) moves) :
    ∃ text number nodes,
      ((new handler path interactive limits).after moves).calls[replacement.stopper]? =
        some (.submit text number) ∧
      (Session.start handler path interactive limits).1.reading text = .success nodes := by
  rcases replacement with ⟨before, owner, between, stopper, rest, index, split, _, stops⟩
  rcases stops.stopped with ⟨_, _, submission, waits⟩
  have split' : moves = (before ++ .caller owner :: between ++ [.caller stopper]) ++ rest := by
    simp only [split, List.append_assoc, List.cons_append, List.nil_append]
  have orderly := orderly_after handler path interactive limits
    (before ++ .caller owner :: between ++ [.caller stopper])
  have sameKind := sameKind_after (new handler path interactive limits)
    (before ++ .caller owner :: between ++ [.caller stopper])
  have world_eq : ((new handler path interactive limits).after
      (before ++ .caller owner :: between ++ [.caller stopper])).world.callers[stopper]? =
      some (.stopping index submission) := by
    rw [after_append]
    exact waits
  rcases orderly.call_of world_eq with ⟨call, called⟩
  have staged := orderly.staged stopper call _ called world_eq
  have finally_ := getElem?_calls_after called rest
  rw [← after_append, ← split'] at finally_
  cases submission with
  | some submission =>
      refine ⟨submission.text, submission.number, submission.nodes, ?_, ?_⟩
      · rw [finally_, staged.1]
      · have reads := staged.2
        rwa [sameKind.reading] at reads
  | none =>
      cases staged
      refine absurd (List.mem_of_getElem? finally_) ?_
      rw [calls_after]
      intro member
      rcases List.mem_append.mp member with early | late
      · cases early
      · rcases List.mem_filterMap.mp late with ⟨next, isMove, made⟩
        cases next with
        | call call =>
            cases made
            exact noCancel isMove
        | caller caller => cases made
        | evaluation index => cases made

/-- An evaluation is asked to stop by a later call, or by an earlier one that was
ready to go on when the evaluation was created. -/
theorem later_or_ready (noCancel : .call .cancel ∉ moves)
    (replacement : Replacement (new handler path interactive limits) moves) :
    replacement.owner < replacement.stopper ∨ replacement.stopper < replacement.owner ∧
      ((new handler path interactive limits).after replacement.before).world.IsReady
        replacement.stopper := by
  rcases replacement.exists_text noCancel with ⟨text, number, nodes, called, reads⟩
  rcases replacement with ⟨before, owner, between, stopper, rest, index, split, creates, stops⟩
  dsimp only at called ⊢
  rcases creates.created with ⟨submission, world, ready, like, idle, moved⟩
  have early := stops.stopped.2.1
  have orderly := orderly_after handler path interactive limits before
  have known := ready.isEarly.inside
  by_cases inside :
      stopper < ((new handler path interactive limits).after before).world.callers.length
  · rw [after_append] at early
    change (((((new handler path interactive limits).after before).move (.caller owner)).after
      between).world.IsEarly stopper) at early
    have earlier := isEarly_of_after
      (Nat.lt_of_lt_of_le inside (World.length_callers_le _ _)) early
    have first := World.isEarly_of_move inside earlier
    have different : stopper ≠ owner := by
      rintro rfl
      rcases earlier with ⟨stage, stands, isEarly⟩
      have awaiting : (((new handler path interactive limits).after before).world.move
          (.caller stopper)).callers[stopper]? = some (.awaiting world.evaluations.length) := by
        rw [moved]
        exact List.getElem?_set_self (by rw [← like.callers] at inside; exact inside)
      change (((new handler path interactive limits).after before).world.move
        (.caller stopper)).callers[stopper]? = some stage at stands
      rw [awaiting] at stands
      cases stands
      cases isEarly
    have calledThen := calls_of_split split (orderly.calls_length ▸ inside) called
    have sameKind := sameKind_after (new handler path interactive limits) before
    have isReady := orderly.isReady (bounded_after handler path interactive limits before) idle
      calledThen (by rw [sameKind.reading]; exact reads) first
    rcases Nat.lt_or_gt_of_ne different with sooner | later
    · exact .inr ⟨sooner, isReady⟩
    · exact .inl later
  · exact .inl (by omega)

/-- Every cancelled evaluation was asked to stop at some turn. -/
theorem exists_of_cancelled {index : Nat} {record : Record} {evaluating : Evaluating}
    (recorded : ((new handler path interactive limits).after moves).records[index]? = some record)
    (found : ((new handler path interactive limits).after moves).world.evaluations[index]? =
      some evaluating) (cancelled : evaluating.progress = .cancelled) :
    ∃ replacement : Replacement (new handler path interactive limits) moves,
      replacement.index = index ∧ replacement.owner = record.caller := by
  have isUnwanted := (orderly_after handler path interactive limits moves).unwanted index evaluating
    found cancelled
  rcases exists_turning
      (fun chronicle => ∃ evaluating, chronicle.world.evaluations[index]? = some evaluating ∧
        evaluating.unwanted = true)
      (new handler path interactive limits) moves
      (by rintro ⟨_, impossible, _⟩; cases impossible) ⟨evaluating, found, isUnwanted⟩ with
    ⟨earlier, next, rest, split, wanted, other, isFound, marked⟩
  rcases World.stops_of_unwanted isFound marked (fun before was => by
      cases unwanted : before.unwanted with
      | false => rfl
      | true => exact absurd ⟨before, was, unwanted⟩ wanted) with ⟨stopper, rfl, stops⟩
  rcases inFlight_eq_some stops.stopped.1 with ⟨_, exists_, _⟩
  rcases (orderly_after handler path interactive limits earlier).record_of exists_ with
    ⟨first, firstRecorded⟩
  have owns : ((new handler path interactive limits).after earlier).Owns first.caller index :=
    ⟨first, firstRecorded, rfl⟩
  rcases exists_turning (fun chronicle => chronicle.Owns first.caller index)
      (new handler path interactive limits) earlier
      (by rintro ⟨_, impossible, _⟩; cases impossible) owns with
    ⟨before, creation, between, splitEarlier, unowned, owned⟩
  rcases (orderly_after handler path interactive limits before).creates_of_owns owned unowned with
    ⟨rfl, creates⟩
  have split' : moves = before ++ .caller first.caller :: (between ++ .caller stopper :: rest) := by
    simp only [split, splitEarlier, List.append_assoc, List.cons_append]
  refine ⟨⟨before, first.caller, between, stopper, rest, index, split', creates, ?_⟩, rfl, ?_⟩
  · rw [← splitEarlier]
    exact stops
  · -- The record has not changed hands since.
    rcases owns.after (.caller stopper :: rest) with ⟨last, lastRecorded, same⟩
    rw [← after_append, ← split, recorded] at lastRecorded
    cases lastRecorded
    exact same.symm

/-- Whoever is ready when another one creates an evaluation asks that to stop at its
next turn, unless it has ended by then. -/
theorem stops_of_ready {before between : List Move} {owner stopper index : Nat}
    (creates : ((new handler path interactive limits).after before).world.Creates owner index)
    (ready : ((new handler path interactive limits).after before).world.IsReady stopper)
    (different : stopper ≠ owner) (idle : .caller stopper ∉ between)
    {evaluating : Evaluating}
    (found : ((new handler path interactive limits).after
      (before ++ .caller owner :: between)).world.evaluations[index]? = some evaluating)
    (unfinished : evaluating.isDone = false) :
    ((new handler path interactive limits).after
      (before ++ .caller owner :: between)).world.Stops stopper index := by
  rcases ready with ⟨submission, ready⟩
  have orderly := orderly_after handler path interactive limits (before ++ .caller owner :: between)
  have last := orderly.unfinished index evaluating found unfinished
  have flying : ((new handler path interactive limits).after
      (before ++ .caller owner :: between)).world.inFlight = some index := by
    simp [World.inFlight, last.1, found, unfinished]
  have idleThroughout : .caller stopper ∉ Move.caller owner :: between := by
    intro member
    rcases List.mem_cons.mp member with same | later
    · exact different (Move.caller.inj same)
    · exact idle later
  have stands {stage : Stage} (was : ((new handler path interactive limits).after
      before).world.callers[stopper]? = some stage) :
      ((new handler path interactive limits).after
        (before ++ .caller owner :: between)).world.callers[stopper]? = some stage := by
    rw [after_append]
    exact callers_after_of_not_mem was idleThroughout
  suffices stillReady : ((new handler path interactive limits).after
      (before ++ .caller owner :: between)).world.Ready stopper submission from
    stillReady.stops flying
  cases ready with
  | read was reads =>
      rw [(sameKind_after _ before).reading] at reads
      exact .read (stands was) (by rw [(sameKind_after _ _).reading]; exact reads)
  | stopped ended ending was exists_ isDone =>
      have sooner : ended < index := by
        have bounded := (List.getElem?_eq_some_iff.mp exists_).1
        have length_eq := creates.1
        omega
      have bounded : ended < ((new handler path interactive limits).after
          (before ++ .caller owner :: between)).world.evaluations.length := by
        have length_eq := last.2
        omega
      have isFound := List.getElem?_eq_getElem bounded
      refine .stopped ended _ (stands was) isFound ?_
      -- One that has not ended would be the last one.
      cases stillDone : Evaluating.isDone _ with
      | true => rfl
      | false =>
          have alsoLast := (orderly.unfinished ended _ isFound stillDone).2
          have length_eq := last.2
          omega

/-- A caller that is told that its evaluation was cancelled has had one that was. -/
theorem exists_cancelled {caller : Nat} {text : Text} {number : Int}
    (called : ((new handler path interactive limits).after moves).calls[caller]? =
      some (.submit text number))
    (concluded : ((new handler path interactive limits).after moves).world.conclusion? caller =
      some .cancelled) :
    ∃ (index : Nat) (record : Record) (evaluating : Evaluating),
      ((new handler path interactive limits).after moves).records[index]? = some record ∧
      ((new handler path interactive limits).after moves).world.evaluations[index]? =
        some evaluating ∧
      evaluating.progress = .cancelled ∧ record.caller = caller := by
  have told : ((new handler path interactive limits).after moves).world.callers[caller]? =
      some (.concluded .cancelled) := by
    unfold World.conclusion? at concluded
    split at concluded
    · next found =>
      cases concluded
      exact found
    · cases concluded
  rcases (orderly_after handler path interactive limits moves).staged caller _ _ called told with
    ⟨index, ⟨record, recorded, isCaller⟩, evaluating, found, gives⟩ | ⟨_, raised, impossible⟩
  · exact ⟨index, record, evaluating, recorded, found, gives.eq_cancelled, isCaller⟩
  · cases impossible

end Replacement

/-- Without requests to cancel, a submission is cancelled by later ones only, and by
earlier ones that it has overtaken: they were ready to go on when its evaluation was
created.  The last submission that can be read is thus cancelled only if it has
overtaken an earlier one.  An overtaken submission has the evaluation cancelled
indeed, unless that ends before the next turn of the overtaken caller. -/
theorem cancelled_by_later_or_overtaken (handler : Handler) (path : Text) (interactive : Bool)
    (limits : Limits) (moves : List Move) (noCancel : .call .cancel ∉ moves) :
    (forall replacement : Replacement (new handler path interactive limits) moves,
      replacement.owner < replacement.stopper ∨ replacement.stopper < replacement.owner ∧
        ((new handler path interactive limits).after replacement.before).world.IsReady
          replacement.stopper) ∧
    (forall (index : Nat) (record : Record) (evaluating : Evaluating),
      ((new handler path interactive limits).after moves).records[index]? = some record ->
      ((new handler path interactive limits).after moves).world.evaluations[index]? =
        some evaluating ->
      evaluating.progress = .cancelled ->
      ∃ replacement : Replacement (new handler path interactive limits) moves,
        replacement.index = index ∧ replacement.owner = record.caller) ∧
    (forall (caller : Nat) (text : Text) (number : Int) (nodes : List Node),
      ((new handler path interactive limits).after moves).calls[caller]? =
        some (.submit text number) ->
      (Session.start handler path interactive limits).1.reading text = .success nodes ->
      (forall (later : Nat) (other : Text) (first : Int) (others : List Node), caller < later ->
        ((new handler path interactive limits).after moves).calls[later]? =
          some (.submit other first) ->
        (Session.start handler path interactive limits).1.reading other ≠ .success others) ->
      ((new handler path interactive limits).after moves).world.conclusion? caller =
        some .cancelled ->
      ∃ replacement : Replacement (new handler path interactive limits) moves,
        replacement.owner = caller ∧ replacement.stopper < caller ∧
        ((new handler path interactive limits).after replacement.before).world.IsReady
          replacement.stopper) ∧
    (forall (before between : List Move) (owner stopper index : Nat) (evaluating : Evaluating),
      ((new handler path interactive limits).after before).world.Creates owner index ->
      ((new handler path interactive limits).after before).world.IsReady stopper ->
      stopper ≠ owner -> .caller stopper ∉ between ->
      ((new handler path interactive limits).after
        (before ++ .caller owner :: between)).world.evaluations[index]? = some evaluating ->
      evaluating.isDone = false ->
      ((new handler path interactive limits).after
        (before ++ .caller owner :: between)).world.Stops stopper index) := by
  refine ⟨fun replacement => replacement.later_or_ready noCancel,
    fun _ _ _ => Replacement.exists_of_cancelled, ?_,
    fun _ _ _ _ _ _ creates ready different idle found unfinished =>
      Replacement.stops_of_ready creates ready different idle found unfinished⟩
  intro caller text number nodes called reads last concluded
  rcases Replacement.exists_cancelled called concluded with
    ⟨index, record, evaluating, recorded, found, cancelled, isCaller⟩
  rcases Replacement.exists_of_cancelled recorded found cancelled with
    ⟨replacement, _, isOwner⟩
  rw [isCaller] at isOwner
  refine ⟨replacement, isOwner, ?_⟩
  rcases replacement.later_or_ready noCancel with later | earlier
  · rcases replacement.exists_text noCancel with ⟨other, first, others, isCall, isRead⟩
    rw [isOwner] at later
    exact absurd isRead (last _ other first others later isCall)
  · rwa [isOwner] at earlier

/-- A second caller has the evaluation of the first one stopped, and a third one comes
in between before the second has gone on. -/
def overtaking : List Move :=
  [.call (.submit "out 1 + 1".toList 1), .caller 0, .evaluation 0,
    .call (.submit "out 2 + 2".toList 2), .caller 1,
    .call (.submit "out 3 + 3".toList 3), .evaluation 0, .caller 2, .evaluation 1, .caller 1,
    .evaluation 1, .caller 2, .caller 1, .evaluation 2, .evaluation 2, .evaluation 2,
    .evaluation 2, .caller 1]

theorem reading_third :
    ∃ nodes, terminal.world.session.reading "out 3 + 3".toList = .success nodes :=
  Outcome.exists_of_isSuccess (by decide +kernel)

theorem cancelled_by_later_or_overtaken_third :
    .call .cancel ∉ overtaking ∧
    (terminal.after overtaking).world.conclusion? 2 = some .cancelled ∧
    ∃ replacement : Replacement terminal overtaking,
      replacement.owner = 2 ∧ replacement.stopper < 2 ∧
      (terminal.after replacement.before).world.IsReady replacement.stopper := by
  have noCancel : .call .cancel ∉ overtaking := by decide
  have cancelled : (terminal.after overtaking).world.conclusion? 2 = some .cancelled := by
    decide +kernel
  rcases reading_third with ⟨nodes, reads⟩
  have three : (terminal.after overtaking).calls.length = 3 := by decide +kernel
  refine ⟨noCancel, cancelled, ?_⟩
  refine (cancelled_by_later_or_overtaken (Handler.new false false) Session.terminalName true
    .standard overtaking noCancel).2.2.1 2 "out 3 + 3".toList 3 nodes ?_ reads ?_ cancelled
  · decide +kernel
  · intro later other first others isLater called
    have bounded := (List.getElem?_eq_some_iff.mp called).1
    rw [show (new (Handler.new false false) Session.terminalName true .standard).after overtaking =
      terminal.after overtaking from rfl, three] at bounded
    omega

/-- The same course of a session under a queue that is served in order. -/
def queued : Schedule :=
  let first := (Schedule.new (Session.start (Handler.new false false)
    Session.terminalName true .standard).1).start
      "var xs = map(\x7b0 .. 9\x7d, v -> v + 1)".toList 1
  let second := (Schedule.tick 100 5 first.1).start "out 2 + 2".toList 2
  let third := (Schedule.tick 100 1 second.1).start "out 3 + 3".toList 3
  Schedule.tick 100 20 third.1

/-- A submission does not always win over those that came before it, not even where
turns are taken first come, first served: the third of three is cancelled by the
second. -/
theorem newest_cancelled_by_earlier :
    .call .cancel ∉ overtaking ∧
    (∃ nodes, terminal.world.session.reading "out 3 + 3".toList = .success nodes) ∧
    (∃ replacement : Replacement terminal overtaking,
      replacement.owner = 2 ∧ replacement.stopper = 1) ∧
    (terminal.after overtaking).world.conclusion? 1 = some (.output ['4']) ∧
    (terminal.after overtaking).world.conclusion? 2 = some .cancelled ∧
    queued.world.conclusion? 1 = some (.output ['4']) ∧
    queued.world.conclusion? 2 = some .cancelled := by
  refine ⟨by decide, reading_third, ⟨⟨overtaking.take 7, 2, [.evaluation 1], 1,
    overtaking.drop 10, 1, rfl, by decide +kernel, by decide +kernel⟩, rfl, rfl⟩, ?_⟩
  decide +kernel

end Chronicle
end SequenceCalculator
