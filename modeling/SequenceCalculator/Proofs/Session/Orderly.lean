import SequenceCalculator.Proofs.Session.Chronicle

namespace SequenceCalculator

/-!
# What every move of a session keeps

The invariant relates the evaluation that is known to be current to all
evaluations ever created: one that has not ended is the current one and the last
one created.  It follows that nobody else touches the bindings while an evaluation
is suspended, so each evaluation gets as far as its program would get alone.

The operations that turns are made of are treated one by one: each keeps the
invariant under the conditions under which a turn uses it.
-/

/-- What reading a text gives, apart from how it is reported. -/
def Session.reading (session : Session) (text : Text) :
    Outcome Grammar.SyntaxError (List Node) :=
  if session.interactive then
    (Grammar.parseStatement session.limits.nesting text).map fun node => [node]
  else Grammar.parseProgram session.limits.nesting text

/-- The same kind of texts is taken, within the same limits. -/
structure Session.SameKind (session other : Session) : Prop where
  interactive : other.interactive = session.interactive
  limits : other.limits = session.limits

namespace Session.SameKind

theorem refl (session : Session) : session.SameKind session :=
  ⟨rfl, rfl⟩

theorem trans {first second third : Session} (one : first.SameKind second)
    (other : second.SameKind third) : first.SameKind third :=
  ⟨other.interactive.trans one.interactive, other.limits.trans one.limits⟩

theorem reading {session other : Session} (same : session.SameKind other) :
    other.reading = session.reading := by
  funext text
  simp only [Session.reading, same.interactive, same.limits]

end Session.SameKind

/-- A change that is no more than a matter of reports and the journal. -/
structure Session.Agrees (session other : Session) : Prop extends session.SameKind other where
  environment : other.environment = session.environment
  results : other.results = session.results

namespace Session.Agrees

theorem note (session : Session) (source : String) (message : Text) :
    session.Agrees (session.note source message) :=
  ⟨⟨rfl, rfl⟩, rfl, rfl⟩

theorem announce (session : Session) (text : Text) (number : Int) :
    session.Agrees (session.announce text number) := by
  unfold Session.announce
  split
  · exact ⟨⟨rfl, rfl⟩, rfl, rfl⟩
  · exact ⟨⟨rfl, rfl⟩, rfl, rfl⟩

theorem noteEnd (session : Session) (outcome : Outcome Failure Text) :
    session.Agrees (session.noteEnd outcome) := by
  cases outcome <;> exact ⟨⟨rfl, rfl⟩, rfl, rfl⟩

theorem parse (session : Session) (text : Text) (number : Int) :
    session.Agrees (session.parse text number).1 := by
  unfold Session.parse
  dsimp only
  split
  · exact ⟨⟨rfl, rfl⟩, rfl, rfl⟩
  · exact ⟨⟨rfl, rfl⟩, rfl, rfl⟩
  · exact ⟨⟨rfl, rfl⟩, rfl, rfl⟩

end Session.Agrees

namespace Session

/-- A text is read exactly when its reading succeeds. -/
theorem parse_eq_ok_iff (session : Session) (text : Text) (number : Int) {nodes : List Node} :
    (session.parse text number).2 = .ok nodes ↔
      session.reading text = .success nodes := by
  have raises : forall (other : Session) (draft : Notice.Draft),
      (other.raising draft : Except Raised (List Node)) ≠ .ok nodes := by
    intro other draft
    unfold raising
    split <;> simp
  unfold parse reading
  dsimp only
  split
  · next found => rw [found]; simp
  · next found => rw [found]; simp
  · next found => rw [found]; simp [raises]

end Session

/-- The output a caller has got, if it has. -/
def Stage.output? : Stage -> Option Text
  | .concluded (.output text) => some text
  | _ => none

/-- Whether a caller has not got as far as an evaluation of its own. -/
def Stage.isEarly : Stage -> Bool
  | .submitting _ _ => true
  | .cancelling => true
  | .stopping _ _ => true
  | _ => false

theorem Stage.output?_of_isEarly {stage : Stage} (early : stage.isEarly = true) :
    stage.output? = none := by
  cases stage with
  | concluded conclusion => cases early
  | _ => rfl

/-- What the caller of an evaluation is told when the evaluation has ended. -/
def Progress.Gives : Progress -> Conclusion -> Prop
  | .finished (.success text), conclusion => conclusion = .output text
  | .finished (.failure _), conclusion => ∃ raised, conclusion = .raised raised
  | .finished (.fault fault), conclusion => conclusion = .raised (.fault fault)
  | .cancelled, conclusion => conclusion = .cancelled
  | _, _ => False

theorem Progress.Gives.eq_cancelled {progress : Progress} (gives : progress.Gives .cancelled) :
    progress = .cancelled := by
  cases progress with
  | cancelled => rfl
  | created nodes => cases gives
  | suspended resume => cases gives
  | finished outcome =>
      cases outcome with
      | success output => cases gives
      | failure reason => rcases gives with ⟨_, impossible⟩; cases impossible
      | fault fault => cases gives

theorem isDone_of_gives {evaluating : Evaluating} {conclusion : Conclusion}
    (gives : evaluating.progress.Gives conclusion) : evaluating.isDone = true := by
  unfold Evaluating.isDone
  cases progress : evaluating.progress with
  | finished outcome => rfl
  | cancelled => rfl
  | created nodes => rw [progress] at gives; cases gives
  | suspended resume => rw [progress] at gives; cases gives

namespace Chronicle

/-- An evaluation was created for a caller. -/
def Owns (chronicle : Chronicle) (caller index : Nat) : Prop :=
  ∃ record, chronicle.records[index]? = some record ∧ record.caller = caller

/-- An evaluation has ended in a way that concludes its caller's work. -/
def Concludes (chronicle : Chronicle) (index : Nat) (conclusion : Conclusion) : Prop :=
  ∃ evaluating, chronicle.world.evaluations[index]? = some evaluating ∧
    evaluating.progress.Gives conclusion

/-- A text whose statements a caller wants to have evaluated. -/
def Submits (chronicle : Chronicle) (call : Call) (submission : Submission) : Prop :=
  call = .submit submission.text submission.number ∧
    chronicle.world.session.reading submission.text = .success submission.nodes

/-- A text that cannot be read. -/
def Unread (chronicle : Chronicle) (call : Call) : Prop :=
  ∃ text number, call = .submit text number ∧
    forall nodes, chronicle.world.session.reading text ≠ .success nodes

/-- What a caller is doing fits to what it was called for and to the records. -/
def Staged (chronicle : Chronicle) (caller : Nat) (call : Call) : Stage -> Prop
  | .submitting text number => call = .submit text number
  | .cancelling => call = .cancel
  | .stopping _ (some submission) => chronicle.Submits call submission
  | .stopping _ none => call = .cancel
  | .awaiting index => chronicle.Owns caller index
  | .concluded (.stopped _) => call = .cancel
  | .concluded conclusion =>
      (∃ index, chronicle.Owns caller index ∧ chronicle.Concludes index conclusion) ∨
      (chronicle.Unread call ∧ ∃ raised, conclusion = .raised raised)

/-- What holds of a session at every moment. -/
structure Orderly (chronicle : Chronicle) : Prop where
  records_length : chronicle.records.length = chronicle.world.evaluations.length
  calls_length : chronicle.calls.length = chronicle.world.callers.length
  /-- An evaluation that has not ended is the current one and the last one. -/
  unfinished : forall (index : Nat) (evaluating : Evaluating),
    chronicle.world.evaluations[index]? = some evaluating -> evaluating.isDone = false ->
    chronicle.world.current = some index ∧ index + 1 = chronicle.world.evaluations.length
  /-- Each evaluation has got as far as its program gets alone. -/
  follows : forall (index : Nat) (record : Record) (evaluating : Evaluating),
    chronicle.records[index]? = some record ->
    chronicle.world.evaluations[index]? = some evaluating ->
    record.Follows chronicle.world.session.limits.depth evaluating.progress
  /-- The bindings are those that the evaluations have made one after the other. -/
  linked : Record.Linked chronicle.world.session.limits.depth [] chronicle.records
    chronicle.world.session.environment
  /-- The statements of an evaluation are those of its caller's text. -/
  submitted : forall (index : Nat) (record : Record), chronicle.records[index]? = some record ->
    ∃ text number, chronicle.calls[record.caller]? = some (.submit text number) ∧
      chronicle.world.session.reading text = .success record.nodes
  /-- The caller of an evaluation waits for it or was told how it has ended. -/
  owned : forall (index : Nat) (record : Record), chronicle.records[index]? = some record ->
    chronicle.world.callers[record.caller]? = some (.awaiting index) ∨
    ∃ conclusion, chronicle.world.callers[record.caller]? = some (.concluded conclusion) ∧
      chronicle.Concludes index conclusion
  staged : forall (caller : Nat) (call : Call) (stage : Stage),
    chronicle.calls[caller]? = some call ->
    chronicle.world.callers[caller]? = some stage -> chronicle.Staged caller call stage
  /-- The results are the outputs that callers have got. -/
  results : chronicle.world.session.results.Perm
    (chronicle.world.callers.filterMap Stage.output?)
  /-- Only unwanted evaluations are cancelled. -/
  unwanted : forall (index : Nat) (evaluating : Evaluating),
    chronicle.world.evaluations[index]? = some evaluating ->
    evaluating.progress = .cancelled -> evaluating.unwanted = true
  /-- If the last evaluation is unwanted, somebody has asked to cancel or is going
  to create another one. -/
  replaced : forall (index : Nat) (evaluating : Evaluating),
    chronicle.world.evaluations[index]? = some evaluating -> evaluating.unwanted = true ->
    index + 1 = chronicle.world.evaluations.length ->
    .cancel ∈ chronicle.calls ∨ ∃ (caller : Nat) (submission : Submission),
      chronicle.world.callers[caller]? = some (.stopping index (some submission))

/-- What later stages of a session still know about earlier ones. -/
structure Extends (chronicle later : Chronicle) : Prop where
  owns : forall caller index, chronicle.Owns caller index -> later.Owns caller index
  concludes : forall index conclusion,
    chronicle.Concludes index conclusion -> later.Concludes index conclusion
  reading : later.world.session.reading = chronicle.world.session.reading

theorem Staged.mono {chronicle later : Chronicle} (extends_ : chronicle.Extends later)
    {caller : Nat} {call : Call} {stage : Stage} (staged : chronicle.Staged caller call stage) :
    later.Staged caller call stage := by
  have concluded {conclusion : Conclusion}
      (told : (∃ index, chronicle.Owns caller index ∧ chronicle.Concludes index conclusion) ∨
        (chronicle.Unread call ∧ ∃ raised, conclusion = .raised raised)) :
      (∃ index, later.Owns caller index ∧ later.Concludes index conclusion) ∨
        (later.Unread call ∧ ∃ raised, conclusion = .raised raised) := by
    rcases told with ⟨index, owns, concludes⟩ | ⟨⟨text, number, same, unread⟩, raised⟩
    · exact .inl ⟨index, extends_.owns caller index owns, extends_.concludes index _ concludes⟩
    · exact .inr ⟨⟨text, number, same, by rw [extends_.reading]; exact unread⟩, raised⟩
  match stage with
  | .submitting text number => exact staged
  | .cancelling => exact staged
  | .stopping _ (some submission) => exact ⟨staged.1, by rw [extends_.reading]; exact staged.2⟩
  | .stopping _ none => exact staged
  | .awaiting index => exact extends_.owns caller index staged
  | .concluded (.stopped _) => exact staged
  | .concluded (.output text) => exact concluded staged
  | .concluded .cancelled => exact concluded staged
  | .concluded (.raised _) => exact concluded staged

/-- The same history with another world. -/
def inWorld (chronicle : Chronicle) (world : World) : Chronicle :=
  { chronicle with world := world }

/-- Reports and the journal do not matter. -/
theorem Orderly.report {chronicle : Chronicle} (orderly : chronicle.Orderly) {session : Session}
    (agrees : chronicle.world.session.Agrees session) (printed : Text) :
    (chronicle.inWorld
      { chronicle.world with session := session, printed := printed }).Orderly := by
  have later : chronicle.Extends (chronicle.inWorld
      { chronicle.world with session := session, printed := printed }) :=
    ⟨fun _ _ owns => owns, fun _ _ concludes => concludes, agrees.reading⟩
  exact
    { records_length := orderly.records_length
      calls_length := orderly.calls_length
      unfinished := orderly.unfinished
      follows := by
        have follows := orderly.follows
        rwa [← agrees.limits] at follows
      linked := by
        have linked := orderly.linked
        rwa [← agrees.environment, ← agrees.limits] at linked
      submitted := by
        have submitted := orderly.submitted
        rwa [← agrees.reading] at submitted
      owned := orderly.owned
      staged := fun caller call stage called stands =>
        (orderly.staged caller call stage called stands).mono later
      results := by
        have results := orderly.results
        rwa [← agrees.results] at results
      unwanted := orderly.unwanted
      replaced := orderly.replaced }

theorem forget_agrees (world : World) (index : Nat) :
    (world.forget index).callers = world.callers ∧
      (world.forget index).evaluations = world.evaluations ∧
      (world.forget index).session = world.session := by
  unfold World.forget
  split <;> exact ⟨rfl, rfl, rfl⟩

/-- An evaluation that has ended need not be known as the current one. -/
theorem Orderly.forget {chronicle : Chronicle} (orderly : chronicle.Orderly) {index : Nat}
    (done : forall evaluating, chronicle.world.evaluations[index]? = some evaluating ->
      evaluating.isDone = true) :
    (chronicle.inWorld (chronicle.world.forget index)).Orderly := by
  unfold World.forget
  split
  · next isCurrent =>
    refine { orderly with unfinished := ?_, staged := ?_ }
    · intro other evaluating found unfinished
      have known := (orderly.unfinished other evaluating found unfinished).1
      rw [isCurrent] at known
      cases known
      rw [done evaluating found] at unfinished
      cases unfinished
    · intro caller call stage called stands
      exact (orderly.staged caller call stage called stands).mono
        ⟨fun _ _ owns => owns, fun _ _ concludes => concludes, rfl⟩
  · exact orderly

theorem filterMap_set_of_none (stage : Stage) {stages : List Stage} {caller : Nat} {old : Stage}
    (was : stages[caller]? = some old) (oldNone : old.output? = none)
    (stageNone : stage.output? = none) :
    (stages.set caller stage).filterMap Stage.output? = stages.filterMap Stage.output? := by
  induction stages generalizing caller with
  | nil => rfl
  | cons first rest inductionHypothesis =>
      cases caller with
      | zero =>
          cases was
          simp only [List.set_cons_zero, List.filterMap_cons, oldNone, stageNone]
      | succ caller =>
          have tail := @inductionHypothesis caller was
          simp only [List.set_cons_succ, List.filterMap_cons, tail]

theorem filterMap_set_perm (stage : Stage) {stages : List Stage} {caller : Nat} {old : Stage}
    {text : Text}
    (was : stages[caller]? = some old) (oldNone : old.output? = none)
    (stageSome : stage.output? = some text) :
    ((stages.set caller stage).filterMap Stage.output?).Perm
      (stages.filterMap Stage.output? ++ [text]) := by
  induction stages generalizing caller with
  | nil => cases was
  | cons first rest inductionHypothesis =>
      cases caller with
      | zero =>
          cases was
          simp only [List.set_cons_zero, List.filterMap_cons, oldNone, stageSome]
          exact (List.perm_append_singleton text _).symm
      | succ caller =>
          have tail := @inductionHypothesis caller was
          simp only [List.set_cons_succ, List.filterMap_cons]
          cases first.output? with
          | none => exact tail
          | some other => exact tail.cons other

/-- What is found in a list with another item at an index. -/
theorem getElem?_set_cases {α : Type} {items : List α} {index other : Nat} {item found : α}
    (isFound : (items.set index item)[other]? = some found) :
    other = index ∧ found = item ∨ other ≠ index ∧ items[other]? = some found := by
  by_cases same : other = index
  · subst other
    rw [List.getElem?_set_self'] at isFound
    rcases Option.map_eq_some_iff.mp isFound with ⟨_, _, isItem⟩
    exact .inl ⟨rfl, isItem.symm⟩
  · rw [List.getElem?_set_ne (Ne.symm same)] at isFound
    exact .inr ⟨same, isFound⟩

/-- What is found in a list with one item changed. -/
theorem getElem?_modify_cases {α : Type} {items : List α} {index other : Nat} {change : α -> α}
    {found : α} (isFound : (items.modify index change)[other]? = some found) :
    (other = index ∧ ∃ before, items[index]? = some before ∧ found = change before) ∨
      other ≠ index ∧ items[other]? = some found := by
  by_cases same : other = index
  · subst other
    rw [List.getElem?_modify_eq] at isFound
    rcases Option.map_eq_some_iff.mp isFound with ⟨before, was, becomes⟩
    exact .inl ⟨rfl, before, was, becomes.symm⟩
  · rw [List.getElem?_modify_ne _ _ (Ne.symm same)] at isFound
    exact .inr ⟨same, isFound⟩

/-- A caller that has not got as far has no evaluation. -/
theorem Orderly.caller_ne_of_isEarly {chronicle : Chronicle} (orderly : chronicle.Orderly)
    {caller : Nat} {old : Stage} (was : chronicle.world.callers[caller]? = some old)
    (early : old.isEarly = true) {index : Nat} {record : Record}
    (recorded : chronicle.records[index]? = some record) : record.caller ≠ caller := by
  rintro rfl
  rcases orderly.owned index record recorded with waits | ⟨told, concluded, _⟩
  · rw [was] at waits
    cases waits
    cases early
  · rw [was] at concluded
    cases concluded
    cases early

/-- A caller goes over to another stage, and the outputs are kept.  A caller that
waits for its evaluation only does so when it is told how that has ended, and the
caller must not be the one that is going to replace the last evaluation. -/
theorem Orderly.setStage {chronicle : Chronicle} (orderly : chronicle.Orderly) (stage : Stage)
    (session : Session) {caller : Nat} {call : Call} {old : Stage}
    (called : chronicle.calls[caller]? = some call)
    (was : chronicle.world.callers[caller]? = some old)
    (fits : chronicle.Staged caller call stage)
    (settles : old.isEarly = true ∨ ∃ index conclusion, old = .awaiting index ∧
      stage = .concluded conclusion ∧ chronicle.Concludes index conclusion)
    (passed : forall index submission, old = .stopping index (some submission) ->
      index + 1 ≠ chronicle.world.evaluations.length)
    (environment : session.environment = chronicle.world.session.environment)
    (sameKind : chronicle.world.session.SameKind session)
    (results : session.results.Perm
      ((chronicle.world.callers.set caller stage).filterMap Stage.output?)) :
    (chronicle.inWorld ({ chronicle.world with session := session }.setStage caller
      stage)).Orderly := by
  have later : chronicle.Extends (chronicle.inWorld
      ({ chronicle.world with session := session }.setStage caller stage)) :=
    ⟨fun _ _ owns => owns, fun _ _ concludes => concludes, sameKind.reading⟩
  have others : forall (other : Nat) (kept : Stage), other ≠ caller ->
      chronicle.world.callers[other]? = some kept ->
      (chronicle.world.callers.set caller stage)[other]? = some kept := by
    intro other kept different found
    rw [List.getElem?_set_ne (Ne.symm different), found]
  exact
    { records_length := orderly.records_length
      calls_length := by
        rw [inWorld, World.setStage, List.length_set]
        exact orderly.calls_length
      unfinished := orderly.unfinished
      follows := by
        have follows := orderly.follows
        rwa [← sameKind.limits] at follows
      linked := by
        have linked := orderly.linked
        rwa [← environment, ← sameKind.limits] at linked
      submitted := by
        have submitted := orderly.submitted
        rwa [← sameKind.reading] at submitted
      owned := by
        intro index record recorded
        have inside : caller < chronicle.world.callers.length :=
          (List.getElem?_eq_some_iff.mp was).1
        by_cases same : record.caller = caller
        · rcases settles with early | ⟨other, conclusion, rfl, rfl, concludes⟩
          · exact absurd same (orderly.caller_ne_of_isEarly was early recorded)
          · rcases orderly.owned index record recorded with waits | ⟨told, concluded, _⟩
            · rw [same, was] at waits
              cases waits
              refine .inr ⟨conclusion, ?_, concludes⟩
              rw [same]
              exact List.getElem?_set_self inside
            · rw [same, was] at concluded
              cases concluded
        · rcases orderly.owned index record recorded with waits | ⟨told, concluded, concludes⟩
          · exact .inl (others record.caller _ same waits)
          · exact .inr ⟨told, others record.caller _ same concluded, concludes⟩
      staged := by
        intro other otherCall kept otherCalled stands
        rcases getElem?_set_cases stands with ⟨rfl, rfl⟩ | ⟨_, before⟩
        · obtain rfl : call = otherCall := Option.some.inj (called.symm.trans otherCalled)
          exact fits.mono later
        · exact (orderly.staged other otherCall kept otherCalled before).mono later
      results := results
      unwanted := orderly.unwanted
      replaced := by
        intro index evaluating found isUnwanted last
        rcases orderly.replaced index evaluating found isUnwanted last with
          cancelled | ⟨other, submission, waits⟩
        · exact .inl cancelled
        · refine .inr ⟨other, submission, ?_⟩
          by_cases same : other = caller
          · subst other
            rw [was] at waits
            cases waits
            exact absurd last (passed index submission rfl)
          · exact others other _ same waits }

/-- The work of a caller ends without output. -/
theorem Orderly.conclude {chronicle : Chronicle} (orderly : chronicle.Orderly)
    (conclusion : Conclusion) {caller : Nat} {call : Call} {old : Stage}
    (called : chronicle.calls[caller]? = some call)
    (was : chronicle.world.callers[caller]? = some old)
    (fits : chronicle.Staged caller call (.concluded conclusion))
    (settles : old.isEarly = true ∨ ∃ index, old = .awaiting index ∧
      chronicle.Concludes index conclusion)
    (passed : forall index submission, old = .stopping index (some submission) ->
      index + 1 ≠ chronicle.world.evaluations.length)
    (none : (Stage.concluded conclusion).output? = none) :
    (chronicle.inWorld (chronicle.world.concludeCaller caller conclusion)).Orderly := by
  have oldNone : old.output? = .none := by
    rcases settles with early | ⟨index, rfl, _⟩
    · exact Stage.output?_of_isEarly early
    · rfl
  refine orderly.setStage (.concluded conclusion) chronicle.world.session called was fits ?_ passed
    rfl (.refl _) ?_
  · rcases settles with early | ⟨index, waits, concludes⟩
    · exact .inl early
    · exact .inr ⟨index, conclusion, waits, rfl, concludes⟩
  · rw [filterMap_set_of_none _ was oldNone none]
    exact orderly.results

/-- Nothing is in flight exactly when all evaluations have ended. -/
theorem Orderly.isDone_of_inFlight_none {chronicle : Chronicle} (orderly : chronicle.Orderly)
    (idle : chronicle.world.inFlight = none) {index : Nat} {evaluating : Evaluating}
    (found : chronicle.world.evaluations[index]? = some evaluating) :
    evaluating.isDone = true := by
  cases isDone : evaluating.isDone with
  | true => rfl
  | false =>
      have known := (orderly.unfinished index evaluating found isDone).1
      simp [World.inFlight, known, found, isDone] at idle

theorem inFlight_eq_some {world : World} {index : Nat} (flying : world.inFlight = some index) :
    ∃ evaluating, world.evaluations[index]? = some evaluating ∧ evaluating.isDone = false := by
  unfold World.inFlight at flying
  split at flying
  · cases flying
  · split at flying
    · next evaluating found =>
      split at flying
      · cases flying
      · next unfinished =>
        cases flying
        exact ⟨evaluating, found, by simpa using unfinished⟩
    · cases flying

/-- The evaluation, not wanted any more and with other watchers. -/
def marked (watchers : List Watcher -> List Watcher) (evaluating : Evaluating) : Evaluating :=
  { evaluating with
    unwanted := true
    watchers := watchers evaluating.watchers }

/-- An evaluation is marked as unwanted.  Somebody must be there to account for it
if it is the last one. -/
theorem Orderly.mark {chronicle : Chronicle} (orderly : chronicle.Orderly) (index : Nat)
    (watchers : List Watcher -> List Watcher)
    (accounted : .cancel ∈ chronicle.calls ∨ ∃ (caller : Nat) (submission : Submission),
      chronicle.world.callers[caller]? = some (.stopping index (some submission))) :
    (chronicle.inWorld (chronicle.world.changeEvaluation index (marked watchers))).Orderly := by
  -- Every evaluation there comes from one here with the same progress.
  have source : forall (other : Nat) (evaluating : Evaluating),
      (chronicle.world.evaluations.modify index (marked watchers))[other]? = some evaluating ->
      ∃ before, chronicle.world.evaluations[other]? = some before ∧
        before.progress = evaluating.progress ∧
        (evaluating.unwanted = true ∧ other = index ∨ before = evaluating) := by
    intro other evaluating found
    rcases getElem?_modify_cases found with ⟨rfl, before, was, rfl⟩ | ⟨_, was⟩
    · exact ⟨before, was, rfl, .inl ⟨rfl, rfl⟩⟩
    · exact ⟨evaluating, was, rfl, .inr rfl⟩
  have isDone_eq : forall {before evaluating : Evaluating},
      before.progress = evaluating.progress -> before.isDone = evaluating.isDone := by
    intro before evaluating same
    simp only [Evaluating.isDone, same]
  have length_eq : (chronicle.world.evaluations.modify index (marked watchers)).length =
      chronicle.world.evaluations.length := List.length_modify _ _ _
  have later : chronicle.Extends (chronicle.inWorld
      (chronicle.world.changeEvaluation index (marked watchers))) := by
    refine ⟨fun _ _ owns => owns, ?_, rfl⟩
    rintro other conclusion ⟨evaluating, found, gives⟩
    simp only [Concludes, inWorld, World.changeEvaluation, List.getElem?_modify, found,
      Option.map_eq_map, Option.map_some]
    refine ⟨_, rfl, ?_⟩
    split
    · exact gives
    · exact gives
  exact
    { records_length := orderly.records_length.trans length_eq.symm
      calls_length := orderly.calls_length
      unfinished := by
        intro other evaluating found unfinished
        rcases source other evaluating found with ⟨before, was, same, _⟩
        have known := orderly.unfinished other before was (by rw [isDone_eq same, unfinished])
        exact ⟨known.1, known.2.trans length_eq.symm⟩
      follows := by
        intro other record evaluating recorded found
        rcases source other evaluating found with ⟨before, was, same, _⟩
        rw [← same]
        exact orderly.follows other record before recorded was
      linked := orderly.linked
      submitted := orderly.submitted
      owned := by
        intro other record recorded
        rcases orderly.owned other record recorded with waits | ⟨told, concluded, concludes⟩
        · exact .inl waits
        · exact .inr ⟨told, concluded, later.concludes other told concludes⟩
      staged := fun caller call stage called stands =>
        (orderly.staged caller call stage called stands).mono later
      results := orderly.results
      unwanted := by
        intro other evaluating found cancelled
        rcases source other evaluating found with ⟨before, was, same, ⟨isUnwanted, _⟩ | rfl⟩
        · exact isUnwanted
        · exact orderly.unwanted other before was cancelled
      replaced := by
        intro other evaluating found isUnwanted last
        rcases source other evaluating found with ⟨before, was, same, ⟨_, rfl⟩ | rfl⟩
        · exact accounted
        · exact orderly.replaced other before was isUnwanted (last.trans length_eq) }

/-- A caller has the evaluation in flight cancelled and waits for its end. -/
theorem Orderly.stop {chronicle : Chronicle} (orderly : chronicle.Orderly) {caller index : Nat}
    {call : Call} {old : Stage} {submission : Option Submission}
    (called : chronicle.calls[caller]? = some call)
    (was : chronicle.world.callers[caller]? = some old)
    (flying : chronicle.world.inFlight = some index)
    (fits : chronicle.Staged caller call (.stopping index submission))
    (early : old.isEarly = true)
    (passed : forall other submission, old = .stopping other (some submission) ->
      other ≠ index) :
    (chronicle.inWorld (chronicle.world.stop caller index submission)).Orderly := by
  rcases inFlight_eq_some flying with ⟨evaluating, found, unfinished⟩
  have last := (orderly.unfinished index evaluating found unfinished).2
  have staged := orderly.setStage (.stopping index submission) chronicle.world.session called was
    fits (.inl early)
    (fun other submission stops => by
      have different := passed other submission stops
      omega) rfl (.refl _)
    (by rw [filterMap_set_of_none _ was (Stage.output?_of_isEarly early) rfl]
        exact orderly.results)
  have inside : caller < chronicle.world.callers.length := (List.getElem?_eq_some_iff.mp was).1
  refine staged.mark index (fun watchers => watchers ++ [.stopper caller]) ?_
  cases submission with
  | some submission => exact .inr ⟨caller, submission, List.getElem?_set_self inside⟩
  | none =>
      refine .inl (List.mem_of_getElem? (i := caller) ?_)
      rw [← show call = .cancel from fits]
      exact called

/-- What is found in a list with one more item at its end. -/
theorem getElem?_append_singleton {α : Type} {items : List α} {item other : α} {index : Nat}
    (found : (items ++ [item])[index]? = some other) :
    items[index]? = some other ∨ index = items.length ∧ other = item := by
  rw [List.getElem?_append] at found
  split at found
  · exact .inl found
  · next outside =>
    rcases List.getElem?_eq_some_iff.mp found with ⟨bounded, same⟩
    simp only [List.length_singleton, Nat.lt_one_iff] at bounded
    refine .inr ⟨by omega, ?_⟩
    simpa [bounded] using same.symm

/-- A caller creates the evaluation of its text when nothing is in flight. -/
theorem Orderly.create {chronicle : Chronicle} (orderly : chronicle.Orderly) {caller : Nat}
    {call : Call} {old : Stage} {submission : Submission}
    (called : chronicle.calls[caller]? = some call)
    (was : chronicle.world.callers[caller]? = some old)
    (idle : chronicle.world.inFlight = none)
    (submits : chronicle.Submits call submission) (early : old.isEarly = true) :
    Orderly
      { world := (chronicle.world.create caller submission).1
        calls := chronicle.calls
        records := chronicle.records ++
          [⟨caller, submission.nodes, chronicle.world.session.environment, 0⟩] } := by
  have agrees :=
    Session.Agrees.announce chronicle.world.session submission.text submission.number
  have inside : caller < chronicle.world.callers.length := (List.getElem?_eq_some_iff.mp was).1
  have allDone {index : Nat} {evaluating : Evaluating}
      (found : chronicle.world.evaluations[index]? = some evaluating) :
      evaluating.isDone = true := orderly.isDone_of_inFlight_none idle found
  have later : chronicle.Extends
      { world := (chronicle.world.create caller submission).1
        calls := chronicle.calls
        records := chronicle.records ++
          [⟨caller, submission.nodes, chronicle.world.session.environment, 0⟩] } := by
    refine ⟨?_, ?_, agrees.reading⟩
    · rintro owner index ⟨record, recorded, owns⟩
      have bounded := (List.getElem?_eq_some_iff.mp recorded).1
      exact ⟨record, by simp only [List.getElem?_append_left bounded, recorded], owns⟩
    · rintro index conclusion ⟨evaluating, found, gives⟩
      have bounded := (List.getElem?_eq_some_iff.mp found).1
      exact ⟨evaluating, by
        simp only [World.create, World.setStage, List.getElem?_append_left bounded, found],
        gives⟩
  have length_eq := orderly.records_length
  exact
    { records_length := by
        simp only [World.create, World.setStage, List.length_append, List.length_singleton,
          orderly.records_length]
      calls_length := by
        simp only [World.create, World.setStage, List.length_set]
        exact orderly.calls_length
      unfinished := by
        intro index evaluating found unfinished
        rcases getElem?_append_singleton found with old | ⟨rfl, rfl⟩
        · rw [allDone old] at unfinished
          cases unfinished
        · exact ⟨rfl, by simp [World.create, World.setStage]⟩
      follows := by
        intro index record evaluating recorded found
        rcases getElem?_append_singleton recorded with oldRecord | ⟨rfl, rfl⟩
        · rcases getElem?_append_singleton found with old | ⟨rfl, rfl⟩
          · have follows := orderly.follows index record evaluating oldRecord old
            rwa [← agrees.limits] at follows
          · have bounded := (List.getElem?_eq_some_iff.mp oldRecord).1
            omega
        · rcases getElem?_append_singleton found with old | ⟨_, rfl⟩
          · have bounded := (List.getElem?_eq_some_iff.mp old).1
            omega
          · exact ⟨rfl, rfl⟩
      linked := by
        have linked := orderly.linked
        rw [← agrees.limits] at linked
        exact Record.linked_append.mpr ⟨linked, agrees.environment.symm⟩
      submitted := by
        intro index record recorded
        rw [show (chronicle.world.create caller submission).1.session.reading = _
          from agrees.reading]
        rcases getElem?_append_singleton recorded with old | ⟨rfl, rfl⟩
        · exact orderly.submitted index record old
        · refine ⟨submission.text, submission.number, ?_, submits.2⟩
          rw [← submits.1]
          exact called
      owned := by
        intro index record recorded
        rcases getElem?_append_singleton recorded with oldRecord | ⟨rfl, rfl⟩
        · -- The caller had no evaluation before.
          have different := orderly.caller_ne_of_isEarly was early oldRecord
          have kept {stage : Stage}
              (stands : chronicle.world.callers[record.caller]? = some stage) :
              (chronicle.world.create caller submission).1.callers[record.caller]? =
                some stage := by
            simp only [World.create, World.setStage, List.getElem?_set_ne (Ne.symm different),
              stands]
          rcases orderly.owned index record oldRecord with waits | ⟨told, concluded, concludes⟩
          · exact .inl (kept waits)
          · exact .inr ⟨told, kept concluded, later.concludes index told concludes⟩
        · refine .inl ?_
          rw [length_eq]
          exact List.getElem?_set_self inside
      staged := by
        intro other otherCall stage otherCalled stands
        rcases getElem?_set_cases stands with ⟨rfl, rfl⟩ | ⟨_, before⟩
        · exact ⟨_, by rw [← orderly.records_length]; exact List.getElem?_concat_length, rfl⟩
        · exact (orderly.staged other otherCall stage otherCalled before).mono later
      results := by
        have kept := filterMap_set_of_none (.awaiting chronicle.world.evaluations.length)
          was (Stage.output?_of_isEarly early) rfl
        simp only [World.create, World.setStage, kept, agrees.results]
        exact orderly.results
      unwanted := by
        intro index evaluating found cancelled
        rcases getElem?_append_singleton found with old | ⟨rfl, rfl⟩
        · exact orderly.unwanted index evaluating old cancelled
        · cases cancelled
      replaced := by
        intro index evaluating found isUnwanted last
        rcases getElem?_append_singleton found with old | ⟨rfl, rfl⟩
        · have bounded := (List.getElem?_eq_some_iff.mp old).1
          simp only [World.create, World.setStage, List.length_append, List.length_singleton]
            at last
          omega
        · cases isUnwanted }

/-- A change of the last item leaves those in front of it alone. -/
theorem modify_last {α : Type} {items : List α} {index : Nat} {item : α}
    (found : items[index]? = some item) (last : index + 1 = items.length) :
    ∃ front, items = front ++ [item] ∧
      forall change : α -> α, items.modify index change = front ++ [change item] := by
  induction items generalizing index with
  | nil => cases found
  | cons first rest inductionHypothesis =>
      cases index with
      | zero =>
          cases found
          have empty : rest = [] := List.eq_nil_of_length_eq_zero (by simpa using last.symm)
          subst rest
          exact ⟨[], rfl, fun change => rfl⟩
      | succ index =>
          rcases @inductionHypothesis index found (by simpa using last) with
            ⟨front, split, changes⟩
          exact ⟨first :: front, by rw [split]; rfl,
            fun change => by rw [List.modify_succ_cons, changes]; rfl⟩

/-- The evaluation that has not ended gets further.  Its record changes with it,
and the bindings become those that the changed record has left. -/
theorem Orderly.progress {chronicle : Chronicle} (orderly : chronicle.Orderly) {index : Nat}
    {evaluating : Evaluating} (found : chronicle.world.evaluations[index]? = some evaluating)
    (unfinished : evaluating.isDone = false) {record : Record}
    (recorded : chronicle.records[index]? = some record) (change : Record -> Record)
    (caller_eq : forall record, (change record).caller = record.caller)
    (nodes_eq : forall record, (change record).nodes = record.nodes)
    (start_eq : forall record, (change record).start = record.start)
    (progress : Progress) (session : Session)
    (follows : (change record).Follows chronicle.world.session.limits.depth progress)
    (onlyUnwanted : progress = .cancelled -> evaluating.unwanted = true)
    (environment : (change record).left chronicle.world.session.limits.depth =
      session.environment)
    (results : session.results = chronicle.world.session.results)
    (sameKind : chronicle.world.session.SameKind session) :
    Orderly
      { world := { chronicle.world with session := session }.changeEvaluation index
          fun evaluating => { evaluating with progress := progress }
        calls := chronicle.calls
        records := chronicle.records.modify index change } := by
  have known := orderly.unfinished index evaluating found unfinished
  have lengths := orderly.records_length
  rcases modify_last recorded (by omega) with ⟨front, records_eq, changed⟩
  -- Every record there comes from one here with the same caller and statements.
  have source : forall (other : Nat) (otherRecord : Record),
      (chronicle.records.modify index change)[other]? = some otherRecord ->
      ∃ old, chronicle.records[other]? = some old ∧ old.caller = otherRecord.caller ∧
        old.nodes = otherRecord.nodes := by
    intro other otherRecord otherRecorded
    rcases getElem?_modify_cases otherRecorded with ⟨rfl, before, was, rfl⟩ | ⟨_, was⟩
    · exact ⟨before, was, (caller_eq before).symm, (nodes_eq before).symm⟩
    · exact ⟨otherRecord, was, rfl, rfl⟩
  have later : chronicle.Extends
      { world := { chronicle.world with session := session }.changeEvaluation index
          fun evaluating => { evaluating with progress := progress }
        calls := chronicle.calls
        records := chronicle.records.modify index change } := by
    refine ⟨?_, ?_, sameKind.reading⟩
    · rintro owner other ⟨old, oldRecorded, owns⟩
      by_cases same : index = other
      · subst other
        refine ⟨change old, ?_, by rw [caller_eq, owns]⟩
        rw [List.getElem?_modify_eq, oldRecorded]
        rfl
      · exact ⟨old, (List.getElem?_modify_ne _ _ same).trans oldRecorded, owns⟩
    · rintro other conclusion ⟨old, oldFound, gives⟩
      by_cases same : index = other
      · subst other
        rw [found] at oldFound
        cases oldFound
        rw [isDone_of_gives gives] at unfinished
        cases unfinished
      · exact ⟨old, (List.getElem?_modify_ne _ _ same).trans oldFound, gives⟩
  exact
    { records_length := by
        simp only [World.changeEvaluation, List.length_modify, orderly.records_length]
      calls_length := orderly.calls_length
      unfinished := by
        intro other another otherFound otherUnfinished
        simp only [World.changeEvaluation, List.length_modify]
        rcases getElem?_modify_cases otherFound with ⟨rfl, _⟩ | ⟨_, was⟩
        · exact known
        · exact orderly.unfinished other another was otherUnfinished
      follows := by
        intro other otherRecord another otherRecorded otherFound
        rw [show World.session _ = session from rfl, sameKind.limits]
        rcases getElem?_modify_cases otherFound with ⟨rfl, before, _, rfl⟩ | ⟨different, was⟩
        · rcases getElem?_modify_cases otherRecorded with ⟨_, old, wasOld, rfl⟩ | ⟨absent, _⟩
          · rw [recorded] at wasOld
            cases wasOld
            exact follows
          · exact absurd rfl absent
        · rcases getElem?_modify_cases otherRecorded with ⟨same, _⟩ | ⟨_, wasOld⟩
          · exact absurd same different
          · exact orderly.follows other otherRecord another wasOld was
      linked := by
        have linked := orderly.linked
        rw [records_eq, Record.linked_append] at linked
        rw [← sameKind.limits] at linked environment
        simp only [changed, Record.linked_append, start_eq]
        exact ⟨linked.1, environment⟩
      submitted := by
        intro other otherRecord otherRecorded
        simp only [World.changeEvaluation, sameKind.reading]
        rcases source other otherRecord otherRecorded with ⟨old, was, caller_eq, nodes_eq⟩
        rw [← caller_eq, ← nodes_eq]
        exact orderly.submitted other old was
      owned := by
        intro other otherRecord otherRecorded
        rcases source other otherRecord otherRecorded with ⟨old, was, caller_eq, _⟩
        rw [← caller_eq]
        rcases orderly.owned other old was with waits | ⟨told, concluded, concludes⟩
        · exact .inl waits
        · exact .inr ⟨told, concluded, later.concludes other told concludes⟩
      staged := fun caller call stage called stands =>
        (orderly.staged caller call stage called stands).mono later
      results := by
        simp only [World.changeEvaluation, results]
        exact orderly.results
      unwanted := by
        intro other another otherFound cancelled
        rcases getElem?_modify_cases otherFound with ⟨rfl, before, was, rfl⟩ | ⟨_, was⟩
        · rw [found] at was
          cases was
          exact onlyUnwanted cancelled
        · exact orderly.unwanted other another was cancelled
      replaced := by
        intro other another otherFound isUnwanted last
        simp only [World.changeEvaluation, List.length_modify] at last
        rcases getElem?_modify_cases otherFound with ⟨rfl, before, was, rfl⟩ | ⟨_, was⟩
        · exact orderly.replaced other before was isUnwanted last
        · exact orderly.replaced other another was isUnwanted last }

/-- Every evaluation has its record, and the last record has left the bindings. -/
theorem Orderly.record_of {chronicle : Chronicle} (orderly : chronicle.Orderly) {index : Nat}
    {evaluating : Evaluating} (found : chronicle.world.evaluations[index]? = some evaluating) :
    ∃ record, chronicle.records[index]? = some record := by
  have bounded := (List.getElem?_eq_some_iff.mp found).1
  rw [← orderly.records_length] at bounded
  exact ⟨chronicle.records[index], List.getElem?_eq_getElem bounded⟩

theorem Orderly.call_of {chronicle : Chronicle} (orderly : chronicle.Orderly) {caller : Nat}
    {stage : Stage} (stands : chronicle.world.callers[caller]? = some stage) :
    ∃ call, chronicle.calls[caller]? = some call := by
  have bounded := (List.getElem?_eq_some_iff.mp stands).1
  rw [← orderly.calls_length] at bounded
  exact ⟨chronicle.calls[caller], List.getElem?_eq_getElem bounded⟩

theorem Orderly.left_eq {chronicle : Chronicle} (orderly : chronicle.Orderly) {index : Nat}
    {evaluating : Evaluating} (found : chronicle.world.evaluations[index]? = some evaluating)
    (unfinished : evaluating.isDone = false) {record : Record}
    (recorded : chronicle.records[index]? = some record) :
    record.left chronicle.world.session.limits.depth = chronicle.world.session.environment := by
  have last := (orderly.unfinished index evaluating found unfinished).2
  rcases modify_last recorded (by rw [orderly.records_length, last]) with ⟨front, split, _⟩
  have linked := orderly.linked
  rw [split, Record.linked_append] at linked
  exact linked.2

/-- A turn of an evaluation that goes on: its program runs alone up to its next
suspension, because the bindings are those it has left. -/
theorem Orderly.advance {chronicle : Chronicle} (orderly : chronicle.Orderly) {index : Nat}
    {evaluating : Evaluating} (found : chronicle.world.evaluations[index]? = some evaluating)
    (unfinished : evaluating.isDone = false) {record : Record}
    (recorded : chronicle.records[index]? = some record) (session : Session)
    (agrees : chronicle.world.session.Agrees session) {activity : Activity Text}
    (reached : (record.activity chronicle.world.session.limits.depth).after record.turns =
      activity) :
    Orderly
      { world := ({ chronicle.world with session := session }.advance index evaluating.watchers
          activity).1
        calls := chronicle.calls
        records := chronicle.records.modify index Record.advance } := by
  have left_eq : record.advance.left chronicle.world.session.limits.depth =
      activity.environment := by
    rw [← reached]
    rfl
  cases activity with
  | suspended environment resume =>
      exact orderly.progress found unfinished recorded Record.advance (fun _ => rfl)
        (fun _ => rfl) (fun _ => rfl) (.suspended resume)
        { session with environment := environment }
        ⟨record.turns, environment, rfl, reached⟩ (fun impossible => by cases impossible)
        left_eq agrees.results ⟨agrees.interactive, agrees.limits⟩
  | finished environment outcome =>
      have ends := Session.Agrees.noteEnd { session with environment := environment } outcome
      have begun : chronicle.world.session.SameKind { session with environment := environment } :=
        ⟨agrees.interactive, agrees.limits⟩
      exact orderly.progress found unfinished recorded Record.advance (fun _ => rfl)
        (fun _ => rfl) (fun _ => rfl) (.finished outcome)
        (Session.noteEnd { session with environment := environment } outcome)
        ⟨record.turns, environment, rfl, reached⟩ (fun impossible => by cases impossible)
        (by rw [ends.environment]; exact left_eq) (ends.results.trans agrees.results)
        (begun.trans ends.toSameKind)

end Chronicle

end SequenceCalculator
