import SequenceCalculator.Proofs.Grammar.Soundness
import SequenceCalculator.Proofs.Session.Turns

namespace SequenceCalculator

/-!
# Evaluations of a session come one after the other

Whatever callers do and however turns are interleaved, a session behaves as if
the evaluations it has created were carried out one at a time, in the order of
their creation, each from the bindings left by those before it.  An evaluation
that fails, is interrupted or still runs counts with the statements it has
completed.

The statements of an evaluation come from a text, so each of them puts out a
text and the output of completed statements can always be joined.
-/

open Evaluation

/-!
## Statements that were read
-/

theorem putsText_of_normalized {depth : Nat} {tokens : List Grammar.Token} {raw node : Node}
    (phrase : Grammar.Statement depth tokens raw) (normal : raw.normalize = .ok node) :
    PutsText node := by
  cases phrase with
  | @declaration tokens expression declared bound =>
      simp only [Node.normalize] at normal
      cases inner : expression.normalize with
      | ok found => rw [inner] at normal; cases normal; trivial
      | error fault => rw [inner] at normal; cases normal
  | @output tokens expression shown =>
      simp only [Node.normalize] at normal
      cases inner : expression.normalize with
      | ok found => rw [inner] at normal; cases normal; trivial
      | error fault => rw [inner] at normal; cases normal
  | printing literal =>
      simp only [Node.normalize] at normal
      cases normal
      trivial

theorem putsText_of_program {depth : Nat} {tokens : List Grammar.Token} {raws nodes : List Node}
    (phrase : Grammar.Program depth tokens raws) (normal : Node.normalizeAll raws = .ok nodes) :
    forall node, node ∈ nodes -> PutsText node := by
  induction phrase generalizing nodes with
  | one statement =>
      rcases Node.normalizeAll_eq_ok normal with ⟨first, others, rfl, isNormal, none⟩
      cases none
      intro node member
      rw [List.mem_singleton.mp member]
      exact putsText_of_normalized statement isNormal
  | more statement others inductionHypothesis =>
      rcases Node.normalizeAll_eq_ok normal with ⟨first, rest, rfl, isNormal, areNormal⟩
      intro node member
      rcases List.mem_cons.mp member with rfl | later
      · exact putsText_of_normalized statement isNormal
      · exact inductionHypothesis areNormal node later

theorem putsText_of_reading {session : Session} {text : Text} {nodes : List Node}
    (reads : session.reading text = .success nodes) :
    forall node, node ∈ nodes -> PutsText node := by
  unfold Session.reading at reads
  split at reads
  · cases found : Grammar.parseStatement session.limits.nesting text with
    | success statement =>
        rcases Grammar.phrase_of_read (Grammar.reads_statement _) found with
          ⟨tokens, _, raw, phrase, normal⟩
        rw [found] at reads
        cases reads
        intro node member
        rw [List.mem_singleton.mp member]
        exact putsText_of_normalized phrase normal
    | failure error => rw [found] at reads; cases reads
    | fault fault => rw [found] at reads; cases reads
  · rcases Grammar.phrase_of_read (Grammar.reads_program _) reads with
      ⟨tokens, _, raws, phrase, normal⟩
    exact putsText_of_program phrase normal

/-!
## How far an evaluation has got
-/

namespace Record

/-- The evaluation is suspended inside the statement behind some completed ones. -/
def Inside (record : Record) (depth : Nat) (done : List Node) : Prop :=
  ∃ (node : Node) (rest : List Node) (items : List Printed) (environment : Environment)
    (count : Nat), record.nodes = done ++ node :: rest ∧
    Completes depth record.start done items environment count ∧ count < record.turns ∧
    record.turns ≤ count + (alone depth environment node).suspensions

/-- The statement behind some completed ones has stopped the evaluation. -/
def StopsBehind (record : Record) (depth : Nat) (done : List Node)
    (outcome : Outcome Failure Printed) : Prop :=
  ∃ (node : Node) (rest : List Node) (items : List Printed) (environment : Environment)
    (count : Nat), record.nodes = done ++ node :: rest ∧
    Completes depth record.start done items environment count ∧
    (alone depth environment node).complete.2 = outcome

/-- The statements that an evaluation has completed: all of them if it has
succeeded, and otherwise those in front of the one that has failed, was
interrupted or still runs. -/
def Covers (record : Record) (depth : Nat) (done : List Node) : Progress -> Prop
  | .created nodes => nodes = record.nodes ∧ done = []
  | .suspended _ => record.Inside depth done
  | .cancelled => record.turns = 0 ∧ done = [] ∨ record.Inside depth done
  | .finished (.failure reason) => record.StopsBehind depth done (.failure reason)
  | .finished (.fault fault) => record.StopsBehind depth done (.fault fault)
  | .finished (.success text) =>
      (record.activity depth).complete.2 = .success text ∧ done = record.nodes

/-- A suspended program is inside a statement, and the bindings it has left are
those of the completed ones. -/
theorem exists_inside {record : Record} {depth turn : Nat} {environment : Environment}
    {resume : Environment -> Activity Text} (turns : record.turns = turn + 1)
    (suspended : (record.activity depth).after turn = .suspended environment resume) :
    ∃ done, record.Inside depth done ∧
      record.left depth = done.foldl (declared depth) record.start := by
  have standing := standing_after depth [] record.nodes record.start turn
  have left : record.left depth = environment := by
    simp only [Record.left, turns, suspended, Activity.environment]
  rw [show program depth [] record.nodes record.start = record.activity depth from rfl,
    suspended] at standing
  cases standing with
  | @inside done rest node items _ count _ split completes begun unfinished =>
      refine ⟨done, ⟨node, rest, items, environment, count, split, completes, ?_, ?_⟩, ?_⟩
      · omega
      · omega
      · rw [left, completes.environment_eq]

theorem exists_covers {record : Record} {depth : Nat} {progress : Progress}
    (follows : record.Follows depth progress)
    (texts : forall node, node ∈ record.nodes -> PutsText node) :
    ∃ done, record.Covers depth done progress ∧
      record.left depth = done.foldl (declared depth) record.start := by
  have unstarted (turns : record.turns = 0) : record.left depth = record.start := by
    rw [Record.left, turns]
  cases progress with
  | created nodes =>
      rcases follows with ⟨turns, same⟩
      exact ⟨[], ⟨same, rfl⟩, unstarted turns⟩
  | suspended resume =>
      rcases follows with ⟨turn, environment, turns, suspended⟩
      exact exists_inside turns suspended
  | cancelled =>
      rcases follows with turns | ⟨turn, environment, resume, turns, suspended⟩
      · exact ⟨[], .inl ⟨turns, rfl⟩, unstarted turns⟩
      · rcases exists_inside turns suspended with ⟨done, inside, left⟩
        exact ⟨done, .inr inside, left⟩
  | finished outcome =>
      rcases follows with ⟨turn, environment, turns, finished⟩
      have standing := standing_after depth [] record.nodes record.start turn
      have left : record.left depth = environment := by
        simp only [Record.left, turns, finished, Activity.environment]
      have complete := Activity.complete_of_after finished
      rw [show program depth [] record.nodes record.start = record.activity depth from rfl,
        finished] at standing
      cases standing with
      | @failed done rest node items _ count reason split completes fails =>
          refine ⟨done, ⟨node, rest, items, environment, count, split, completes, fails⟩, ?_⟩
          rw [left, completes.environment_eq]
      | @stopped done rest node items _ count fault split completes stops =>
          refine ⟨done, ⟨node, rest, items, environment, count, split, completes, stops⟩, ?_⟩
          rw [left, completes.environment_eq]
      | @completed items _ count completes =>
          rcases joinFrom_of_texts (completes.items texts) 0 with ⟨text, joined⟩
          refine ⟨record.nodes, ?_, by rw [left, completes.environment_eq]⟩
          rw [List.nil_append, joined] at complete
          rw [List.nil_append, joined]
          exact ⟨by rw [complete]; rfl, rfl⟩

end Record

namespace Chronicle

/-!
## The order of all evaluations
-/

/-- The completed statements of all evaluations, put one after the other, have
made the bindings. -/
theorem exists_prefixes {depth : Nat} {records : List Record} {start last : Environment}
    (linked : Record.Linked depth start records last)
    (covers : Nat -> Record -> List Node -> Prop)
    (each : forall index record, records[index]? = some record -> ∃ done,
      covers index record done ∧
      record.left depth = done.foldl (declared depth) record.start) :
    ∃ prefixes : List (List Node), prefixes.length = records.length ∧
      last = prefixes.flatten.foldl (declared depth) start ∧
      forall index record, records[index]? = some record -> ∃ done,
        prefixes[index]? = some done ∧ covers index record done ∧
        record.start = (prefixes.take index).flatten.foldl (declared depth) start := by
  induction records generalizing start covers with
  | nil =>
      refine ⟨[], rfl, linked.symm, ?_⟩
      intro index record found
      cases found
  | cons record records inductionHypothesis =>
      rcases each 0 record rfl with ⟨done, covered, left⟩
      rcases linked with ⟨starts, rest⟩
      rw [left, starts] at rest
      rcases inductionHypothesis rest (fun index => covers (index + 1))
        (fun index record found => each (index + 1) record found) with
        ⟨prefixes, lengths, isLast, others⟩
      refine ⟨done :: prefixes, ?_, ?_, ?_⟩
      · rw [List.length_cons, List.length_cons, lengths]
      · rw [List.flatten_cons, List.foldl_append, isLast]
      · intro index other found
        cases index with
        | zero =>
            cases found
            exact ⟨done, rfl, covered, starts⟩
        | succ index =>
            rcases others index other found with ⟨completed, isPrefix, isCovered, starting⟩
            refine ⟨completed, isPrefix, isCovered, ?_⟩
            rw [List.take_succ_cons, List.flatten_cons, List.foldl_append, starting]

/-- How deep the evaluations of the session may go. -/
def depth (chronicle : Chronicle) : Nat := chronicle.world.session.limits.depth

/-- What it means that the evaluations of a session come one after the other. -/
structure Serialized (chronicle : Chronicle) : Prop where
  /-- At most one evaluation has not ended. -/
  exclusive : forall (first second : Nat) (one other : Evaluating),
    chronicle.world.evaluations[first]? = some one ->
    chronicle.world.evaluations[second]? = some other ->
    one.isDone = false -> other.isDone = false -> first = second
  /-- The bindings are those of completed statements, evaluation by evaluation in
  the order of creation.  Each evaluation started from what those before it made. -/
  bindings : ∃ prefixes : List (List Node),
    prefixes.length = chronicle.world.evaluations.length ∧
    chronicle.world.session.environment = prefixes.flatten.foldl (declared chronicle.depth) [] ∧
    forall (index : Nat) (evaluating : Evaluating),
      chronicle.world.evaluations[index]? = some evaluating -> ∃ record done,
        chronicle.records[index]? = some record ∧ prefixes[index]? = some done ∧
        record.Covers chronicle.depth done evaluating.progress ∧
        record.start = (prefixes.take index).flatten.foldl (declared chronicle.depth) []
  /-- Every evaluation is one of the statements of its caller's text. -/
  created : forall (index : Nat) (record : Record), chronicle.records[index]? = some record ->
    ∃ text number, chronicle.calls[record.caller]? = some (.submit text number) ∧
      chronicle.world.session.reading text = .success record.nodes
  /-- The turn at which a text turns out to be unreadable creates no evaluation,
  cancels none and binds nothing. -/
  unread : forall (caller : Nat) (text : Text) (number : Int),
    chronicle.world.callers[caller]? = some (.submitting text number) ->
    (forall nodes, chronicle.world.session.reading text ≠ .success nodes) ->
    (chronicle.world.move (.caller caller)).evaluations = chronicle.world.evaluations ∧
    (chronicle.world.move (.caller caller)).session.environment =
      chronicle.world.session.environment ∧
    ∃ raised, (chronicle.world.move (.caller caller)).callers[caller]? =
      some (.concluded (.raised raised))
  /-- An output is what the program of the caller's own evaluation puts out when it
  is run alone from the bindings at its creation. -/
  outputs : forall (caller : Nat) (text : Text),
    chronicle.world.callers[caller]? = some (.concluded (.output text)) ->
    ∃ (index : Nat) (record : Record),
      chronicle.records[index]? = some record ∧ record.caller = caller ∧
      (program chronicle.depth [] record.nodes record.start).complete.2 = .success text
  /-- There is exactly one result for each output. -/
  results : chronicle.world.session.results.Perm
    (chronicle.world.callers.filterMap Stage.output?)
  /-- If all callers are done and none of them has asked to cancel, then everything
  has ended, the evaluation created last was not cancelled, and its caller was told
  its outcome. -/
  settled : .cancel ∉ chronicle.calls ->
    (forall (caller : Nat) (stage : Stage), chronicle.world.callers[caller]? = some stage ->
      ∃ conclusion, stage = .concluded conclusion) ->
    (forall (index : Nat) (evaluating : Evaluating),
      chronicle.world.evaluations[index]? = some evaluating -> evaluating.isDone = true) ∧
    (forall (index : Nat) (evaluating : Evaluating),
      chronicle.world.evaluations[index]? = some evaluating ->
      index + 1 = chronicle.world.evaluations.length -> ∃ outcome record conclusion,
        evaluating.progress = .finished outcome ∧ chronicle.records[index]? = some record ∧
        chronicle.world.callers[record.caller]? = some (.concluded conclusion) ∧
        evaluating.progress.Gives conclusion) ∧
    (forall (caller : Nat) (text : Text) (number : Int) (nodes : List Node),
      chronicle.calls[caller]? = some (.submit text number) ->
      chronicle.world.session.reading text = .success nodes ->
      chronicle.world.evaluations ≠ [])

theorem Orderly.exclusive {chronicle : Chronicle} (orderly : chronicle.Orderly)
    {first second : Nat} {one other : Evaluating}
    (foundOne : chronicle.world.evaluations[first]? = some one)
    (foundOther : chronicle.world.evaluations[second]? = some other)
    (oneUnfinished : one.isDone = false) (otherUnfinished : other.isDone = false) :
    first = second := by
  have last := (orderly.unfinished first one foundOne oneUnfinished).2
  have alsoLast := (orderly.unfinished second other foundOther otherUnfinished).2
  omega

theorem Orderly.bindings {chronicle : Chronicle} (orderly : chronicle.Orderly) :
    ∃ prefixes : List (List Node),
      prefixes.length = chronicle.world.evaluations.length ∧
      chronicle.world.session.environment = prefixes.flatten.foldl (declared chronicle.depth) [] ∧
      forall (index : Nat) (evaluating : Evaluating),
        chronicle.world.evaluations[index]? = some evaluating -> ∃ record done,
          chronicle.records[index]? = some record ∧ prefixes[index]? = some done ∧
          record.Covers chronicle.depth done evaluating.progress ∧
          record.start = (prefixes.take index).flatten.foldl (declared chronicle.depth) [] := by
  rcases exists_prefixes orderly.linked (fun index record done => forall evaluating,
    chronicle.world.evaluations[index]? = some evaluating ->
    record.Covers chronicle.depth done evaluating.progress) (by
      intro index record recorded
      have bounded := (List.getElem?_eq_some_iff.mp recorded).1
      rw [orderly.records_length] at bounded
      have found := List.getElem?_eq_getElem bounded
      rcases orderly.submitted index record recorded with ⟨text, number, _, reads⟩
      rcases Record.exists_covers (orderly.follows index record _ recorded found)
        (putsText_of_reading reads) with ⟨done, covers, left⟩
      refine ⟨done, ?_, left⟩
      intro evaluating isFound
      rw [found] at isFound
      cases isFound
      exact covers) with ⟨prefixes, lengths, environment, each⟩
  refine ⟨prefixes, lengths.trans orderly.records_length, environment, ?_⟩
  intro index evaluating found
  rcases orderly.record_of found with ⟨record, recorded⟩
  rcases each index record recorded with ⟨done, isPrefix, covers, starts⟩
  exact ⟨record, done, recorded, isPrefix, covers evaluating found, starts⟩

theorem unread_turn {world : World} {caller : Nat} {text : Text} {number : Int}
    (was : world.callers[caller]? = some (.submitting text number))
    (unread : forall nodes, world.session.reading text ≠ .success nodes) :
    (world.move (.caller caller)).evaluations = world.evaluations ∧
    (world.move (.caller caller)).session.environment = world.session.environment ∧
    ∃ raised, (world.move (.caller caller)).callers[caller]? =
      some (.concluded (.raised raised)) := by
  have inside : caller < world.callers.length := (List.getElem?_eq_some_iff.mp was).1
  cases parsed : (world.session.parse text number).2 with
  | ok nodes => exact absurd ((Session.parse_eq_ok_iff _ text number).mp parsed) (unread nodes)
  | error raised =>
      simp only [World.move, World.callerTurn, was, parsed]
      exact ⟨rfl, (Session.Agrees.parse world.session text number).environment, raised,
        List.getElem?_set_self inside⟩

theorem Orderly.outputs {chronicle : Chronicle} (orderly : chronicle.Orderly) {caller : Nat}
    {text : Text} (got : chronicle.world.callers[caller]? = some (.concluded (.output text))) :
    ∃ (index : Nat) (record : Record),
      chronicle.records[index]? = some record ∧ record.caller = caller ∧
      (program chronicle.depth [] record.nodes record.start).complete.2 = .success text := by
  rcases orderly.call_of got with ⟨call, called⟩
  rcases orderly.staged caller call _ called got with
    ⟨index, ⟨record, recorded, owns⟩, evaluating, found, gives⟩ | ⟨_, raised, impossible⟩
  · have follows := orderly.follows index record evaluating recorded found
    refine ⟨index, record, recorded, owns, ?_⟩
    cases progress : evaluating.progress with
    | finished outcome =>
        rw [progress] at follows gives
        rcases follows with ⟨turn, environment, _, finished⟩
        have complete := Activity.complete_of_after finished
        cases outcome with
        | success output =>
            cases gives
            exact congrArg Prod.snd complete
        | failure reason => rcases gives with ⟨raised, impossible⟩; cases impossible
        | fault fault => cases gives
    | cancelled => rw [progress] at gives; cases gives
    | created nodes => rw [progress] at gives; cases gives
    | suspended resume => rw [progress] at gives; cases gives
  · cases impossible

/-- A caller whose work has ended was told the end of its evaluation. -/
theorem Orderly.told {chronicle : Chronicle} (orderly : chronicle.Orderly)
    (concluded : forall (caller : Nat) (stage : Stage),
      chronicle.world.callers[caller]? = some stage ->
      ∃ conclusion, stage = .concluded conclusion)
    {index : Nat} {evaluating : Evaluating}
    (found : chronicle.world.evaluations[index]? = some evaluating) :
    ∃ record conclusion, chronicle.records[index]? = some record ∧
      chronicle.world.callers[record.caller]? = some (.concluded conclusion) ∧
      evaluating.progress.Gives conclusion := by
  rcases orderly.record_of found with ⟨record, recorded⟩
  rcases orderly.owned index record recorded with waits | ⟨conclusion, told, other, isOther, gives⟩
  · rcases concluded record.caller _ waits with ⟨conclusion, impossible⟩
    cases impossible
  · rw [found] at isOther
    cases isOther
    exact ⟨record, conclusion, recorded, told, gives⟩

/-- Without a request to cancel, the evaluation created last has run to its end. -/
theorem Orderly.last_finished {chronicle : Chronicle} (orderly : chronicle.Orderly)
    (noCancel : .cancel ∉ chronicle.calls)
    (concluded : forall (caller : Nat) (stage : Stage),
      chronicle.world.callers[caller]? = some stage ->
      ∃ conclusion, stage = .concluded conclusion)
    {index : Nat} {evaluating : Evaluating}
    (found : chronicle.world.evaluations[index]? = some evaluating)
    (last : index + 1 = chronicle.world.evaluations.length) :
    ∃ outcome, evaluating.progress = .finished outcome := by
  rcases orderly.told concluded found with ⟨_, _, _, _, gives⟩
  cases progress : evaluating.progress with
  | finished outcome => exact ⟨outcome, rfl⟩
  | cancelled =>
      have isUnwanted := orderly.unwanted index evaluating found progress
      rcases orderly.replaced index evaluating found isUnwanted last with
        cancelled | ⟨caller, submission, waits⟩
      · exact absurd cancelled noCancel
      · rcases concluded caller _ waits with ⟨_, impossible⟩
        cases impossible
  | created nodes => rw [progress] at gives; cases gives
  | suspended resume => rw [progress] at gives; cases gives

/-- A caller whose text was read has got an evaluation when its work has ended. -/
theorem Orderly.exists_evaluation {chronicle : Chronicle} (orderly : chronicle.Orderly)
    {caller : Nat} {text : Text} {number : Int} {nodes : List Node} {conclusion : Conclusion}
    (called : chronicle.calls[caller]? = some (.submit text number))
    (stands : chronicle.world.callers[caller]? = some (.concluded conclusion))
    (reads : chronicle.world.session.reading text = .success nodes) :
    ∃ (index : Nat) (evaluating : Evaluating),
      chronicle.world.evaluations[index]? = some evaluating := by
  have staged := orderly.staged caller _ _ called stands
  have ended (told : (∃ index, chronicle.Owns caller index ∧
        chronicle.Concludes index conclusion) ∨
      (chronicle.Unread (.submit text number) ∧ ∃ raised, conclusion = .raised raised)) :
      ∃ (index : Nat) (evaluating : Evaluating),
        chronicle.world.evaluations[index]? = some evaluating := by
    rcases told with ⟨index, _, evaluating, found, _⟩ | ⟨⟨_, _, same, unread⟩, _⟩
    · exact ⟨index, evaluating, found⟩
    · cases same
      exact absurd reads (unread nodes)
  cases conclusion with
  | stopped _ => cases staged
  | output text => exact ended staged
  | cancelled => exact ended staged
  | raised raised => exact ended staged

/-- Whatever callers submit texts or ask to cancel, and in whatever order they and
the evaluations take their turns, evaluations come one after the other. -/
theorem serialized (handler : Handler) (path : Text) (interactive : Bool) (limits : Limits)
    (moves : List Move) :
    ((new handler path interactive limits).after moves).world =
      moves.foldl World.move (World.new (Session.start handler path interactive limits).1) ∧
    ((new handler path interactive limits).after moves).Serialized := by
  refine ⟨world_after _ moves, ?_⟩
  have orderly := orderly_after handler path interactive limits moves
  generalize (new handler path interactive limits).after moves = chronicle at orderly
  exact
    { exclusive := fun _ _ _ _ => orderly.exclusive
      bindings := orderly.bindings
      created := orderly.submitted
      unread := fun _ _ _ => unread_turn
      outputs := fun _ _ => orderly.outputs
      results := orderly.results
      settled := by
        intro noCancel concluded
        refine ⟨?_, ?_, ?_⟩
        · intro index evaluating found
          rcases orderly.told concluded found with ⟨_, _, _, _, gives⟩
          exact isDone_of_gives gives
        · intro index evaluating found last
          rcases orderly.told concluded found with ⟨record, conclusion, recorded, told, gives⟩
          rcases orderly.last_finished noCancel concluded found last with ⟨outcome, finished⟩
          exact ⟨outcome, record, conclusion, finished, recorded, told, gives⟩
        · intro caller text number nodes called reads none
          have stands := List.getElem?_eq_getElem (orderly.calls_length ▸
            (List.getElem?_eq_some_iff.mp called).1)
          rcases concluded caller _ stands with ⟨conclusion, isConcluded⟩
          rw [isConcluded] at stands
          rcases orderly.exists_evaluation called stands reads with
            ⟨index, evaluating, found⟩
          rw [none] at found
          cases found }

/-- A declaration is completed, and then another caller is told what it has bound. -/
example :
    let world := ((new (Handler.new true false) Session.terminalName true .standard).after
      [.call (.submit "var x = {1 .. 2}".toList 1), .caller 0, .evaluation 0, .evaluation 0,
        .evaluation 0, .evaluation 0, .caller 0, .call (.submit "out x".toList 2), .caller 1,
        .evaluation 1, .caller 1]).world
    world.session.environment.names = [['x']] ∧
      world.conclusion? 0 = some (.output []) ∧
      world.conclusion? 1 = some (.output "{1, 2}".toList) := by
  decide +kernel

end Chronicle

end SequenceCalculator
