import SequenceCalculator.Proofs.Report.Filling

namespace SequenceCalculator

/-!
# How something unforeseen is reported

What nobody has foreseen is reported under its category with its message and then passed
on.  The handler makes the notice from a template that the category and the message are
put into as they are, without doubling their braces.  So they are reported word for word
exactly if they have no braces.  With braces the report says something else, or filling
the template is a fault of its own, and then that fault is passed on and nothing is
reported.
-/

/-- Whether the handler has no message of its own for what was raised. -/
def Raised.IsUnforeseen : Raised -> Prop
  | .strange _ _ => True
  | .unknown _ _ => True
  | .fault cause => cause ≠ .tooDeep
  | _ => False

namespace Handler

open Template

/-- What is said about something that nobody has foreseen. -/
def unforeseenMessage (raised : Raised) : Text :=
  "unknown error: '".toList ++ raised.category ++ ": ".toList ++ raised.message ++ "'".toList

theorem unforeseenMessage_braceless {raised : Raised} :
    Braceless (unforeseenMessage raised) ↔
      Braceless raised.category ∧ Braceless raised.message := by
  constructor
  · intro braceless
    have front := (braceless.of_append).1.of_append
    exact ⟨front.1.of_append.1.of_append.2, front.2⟩
  · rintro ⟨category, message⟩
    have start : Braceless "unknown error: '".toList := by decide
    exact (((start.append category).append (by decide)).append message).append (by decide)

theorem settle_unforeseen (handler : Handler) {raised : Raised}
    (unforeseen : raised.IsUnforeseen) :
    handler.settle raised =
      (let (handler, output, result) :=
        handler.throwDraft { template := unforeseenMessage raised, internal := true }
       (handler, output, result.bind fun _ => .error raised)) := by
  cases raised with
  | notice told => cases unforeseen
  | strange category told => rfl
  | unknown category message => rfl
  | fault cause =>
      have same : unforeseenMessage (.fault cause) = faultMessage cause := rfl
      rw [same, settle_of_unforeseen handler unforeseen]
  | interrupt message => cases unforeseen
  | exit status => cases unforeseen

/-- Every file is kept in its place, without a line. -/
theorem places_clearLines (handler : Handler) :
    handler.clearLines.places.map Prod.fst = handler.places.map Prod.fst ∧
      forall path place, (path, place) ∈ handler.clearLines.places -> place = {} := by
  constructor
  · rw [clearLines, List.map_map]
    rfl
  · intro path place member
    rcases List.mem_map.mp member with ⟨_, _, same⟩
    exact (Prod.mk.inj same).2.symm

/-- What stands in front of the message in the report of a fault of the calculator. -/
def reportFront (handler : Handler) : Text :=
  (if 1 < handler.shownLines.length then line "Traceback:".toList else []) ++
    handler.shownLines.flatten ++ Paint.strong handler.colored .red "[internal] ".toList ++
    Paint.strong handler.colored .red "error: ".toList

/-- The report of a fault of the calculator ends with the message. -/
theorem report_internal (handler : Handler) (message : Text) :
    handler.report (.bare message true true) = handler.reportFront ++ message ++ ['\n'] := by
  have noPointer : handler.pointer .red (.bare message true true) = [] := rfl
  have internal : (Notice.bare message true true).internal = true := rfl
  have told : (Notice.bare message true true).message = message := rfl
  have ends : line (Paint.strong handler.colored .red "error: ".toList ++ message) =
      Paint.strong handler.colored .red "error: ".toList ++ message ++ ['\n'] := rfl
  unfold report reportFront
  dsimp only
  rw [noPointer, internal, told, if_pos rfl, List.append_nil, ends, ← List.append_assoc,
    ← List.append_assoc]

/-- The argument of the template is the empty text, which has no braces in bold either. -/
theorem bold_braceless (colored : Bool) {argument : Text}
    (member : argument ∈ [Paint.bold colored []]) : Braceless argument := by
  rw [List.mem_singleton.mp member]
  cases colored <;> decide

section Lasting

variable {handler : Handler} (lasting : handler.fatal = false) {raised : Raised}
  (unforeseen : raised.IsUnforeseen)
include lasting unforeseen

/-- The message is told as the template is filled. -/
theorem settle_of_fill {told : Text}
    (fills : fill (unforeseenMessage raised) [Paint.bold handler.colored []] = .ok told) :
    handler.settle raised =
      (handler.clearLines, handler.report (.bare told true true), .error raised) := by
  have made : Notice.ofDraft handler.colored
      { template := unforeseenMessage raised, internal := true } =
        .ok (.bare told true true) := by
    simp only [Notice.ofDraft, List.map_cons, List.map_nil, fills]
    rfl
  simp only [settle_unforeseen handler unforeseen, throwDraft, made, throw_of_lasting lasting]
  rfl

omit lasting in
/-- A template that cannot be filled is a fault of its own. -/
theorem settle_of_fault {cause : Fault}
    (fails : fill (unforeseenMessage raised) [Paint.bold handler.colored []] = .error cause) :
    handler.settle raised = (handler, [], .error (.fault cause)) := by
  have unmade : Notice.ofDraft handler.colored
      { template := unforeseenMessage raised, internal := true } = .error cause := by
    simp only [Notice.ofDraft, List.map_cons, List.map_nil, fails]
    rfl
  simp only [settle_unforeseen handler unforeseen, throwDraft, unmade]
  rfl

/-- Something unforeseen is reported word for word, with all lines forgotten and all files
kept, and passed on itself, exactly if neither its category nor its message has a brace.
Otherwise either another message is reported, or nothing is, the lines are kept, and a
fault of the template is passed on in its place. -/
theorem reported_verbatim_iff :
    (handler.settle raised =
        (handler.clearLines, handler.report (.bare (unforeseenMessage raised) true true),
          .error raised) ↔
      Braceless raised.category ∧ Braceless raised.message) ∧
    (∃ front, handler.report (.bare (unforeseenMessage raised) true true) =
      front ++ ("unknown error: '".toList ++ raised.category ++ ": ".toList ++
        raised.message ++ "'".toList) ++ ['\n']) ∧
    (handler.clearLines.places.map Prod.fst = handler.places.map Prod.fst ∧
      forall path place, (path, place) ∈ handler.clearLines.places -> place = {}) ∧
    (¬ (Braceless raised.category ∧ Braceless raised.message) ->
      (∃ told, told ≠ unforeseenMessage raised ∧ handler.settle raised =
        (handler.clearLines, handler.report (.bare told true true), .error raised)) ∨
      ∃ cause, handler.settle raised = (handler, [], .error (.fault cause))) := by
  have itself : fill (unforeseenMessage raised) [Paint.bold handler.colored []] =
      .ok (unforeseenMessage raised) ↔ Braceless (unforeseenMessage raised) :=
    fill_eq_self_iff fun _ member => bold_braceless _ member
  rw [unforeseenMessage_braceless] at itself
  refine ⟨⟨fun verbatim => itself.mp ?_, fun braceless => ?_⟩,
    ⟨handler.reportFront, handler.report_internal _⟩, handler.places_clearLines, fun braced => ?_⟩
  · cases fills : fill (unforeseenMessage raised) [Paint.bold handler.colored []] with
    | error cause =>
        rw [settle_of_fault unforeseen fills, report_internal] at verbatim
        simp at verbatim
    | ok told =>
        rw [settle_of_fill lasting unforeseen fills, report_internal, report_internal] at verbatim
        have same := congrArg (fun answer => answer.2.1) verbatim
        rw [List.append_cancel_left (List.append_cancel_right same)]
  · exact settle_of_fill lasting unforeseen (itself.mpr braceless)
  · cases fills : fill (unforeseenMessage raised) [Paint.bold handler.colored []] with
    | error cause => exact .inr ⟨cause, settle_of_fault unforeseen fills⟩
    | ok told =>
        refine .inl ⟨told, ?_, settle_of_fill lasting unforeseen fills⟩
        rintro rfl
        exact braced (itself.mp fills)

end Lasting

/-- A handler that is at work on a line. -/
def busy : Handler :=
  (Handler.new false false).registerLine "<in>".toList "out x".toList 1

theorem reported_verbatim_iff_braceless :
    busy.settle (.unknown "ValueError".toList "bad".toList) =
      ({ busy with places := [("<in>".toList, {})] },
        "  File '<in>', line 1:\n    out x\n[internal] error: unknown error: 'ValueError: bad'\n".toList,
        .error (.unknown "ValueError".toList "bad".toList)) := by
  have braceless : Braceless "ValueError".toList ∧ Braceless "bad".toList := by decide
  have lasting : busy.fatal = false := rfl
  have unforeseen : (Raised.unknown "ValueError".toList "bad".toList).IsUnforeseen := trivial
  rw [(reported_verbatim_iff lasting unforeseen).1.mpr braceless]
  refine Prod.ext ?_ (Prod.ext ?_ rfl)
  · decide +kernel
  · decide +kernel

/-- With a field in the message another fault is passed on and nothing is reported, and
with a pair of braces the report has only one of them. -/
theorem braced_message_not_reported :
    busy.settle (.unknown "ValueError".toList "\x7bx\x7d".toList) =
      (busy, [], .error (.fault (.noKey ['x']))) ∧
    busy.settle (.unknown "ValueError".toList "\x7b\x7b".toList) =
      ({ busy with places := [("<in>".toList, {})] },
        "  File '<in>', line 1:\n    out x\n[internal] error: unknown error: 'ValueError: \x7b'\n".toList,
        .error (.unknown "ValueError".toList "\x7b\x7b".toList)) ∧
    ¬ forall (handler : Handler) (category message : Text), handler.fatal = false ->
      handler.settle (.unknown category message) =
        (handler.clearLines,
          handler.report (.bare (unforeseenMessage (.unknown category message)) true true),
          .error (.unknown category message)) := by
  have fails : busy.settle (.unknown "ValueError".toList "\x7bx\x7d".toList) =
      (busy, [], .error (.fault (.noKey ['x']))) := by rfl
  refine ⟨fails, by rfl, ?_⟩
  intro always
  have verbatim := always busy "ValueError".toList "\x7bx\x7d".toList rfl
  rw [fails] at verbatim
  cases congrArg (fun answer => answer.2.2) verbatim

end Handler

end SequenceCalculator
