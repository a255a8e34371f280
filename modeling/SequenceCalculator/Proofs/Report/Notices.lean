import SequenceCalculator.Report.Handler
import SequenceCalculator.Session.Location

namespace SequenceCalculator

/-!
# Notices that can always be made

A notice is made by filling a template, and a template that is not well formed is
a fault of its own.  An escaped text is a template of that text, so nothing in the
message of a failure is mistaken for a field.  The messages that are used as
templates without being escaped hold no braces.
-/

namespace Template

theorem escape_cons (character : Char) (text : Text) :
    escape (character :: text) =
      (if character = '\x7b' || character = '\x7d' then [character, character]
       else [character]) ++ escape text := by
  rw [escape, escape, List.flatMap_cons]

/-- The induction is on the text: each of its characters is one step of the
filling, which takes one or two characters of the template. -/
theorem fillUpTo_escape (arguments : List Text) (inner : Filler) (numbering : Numbering)
    {bound : Nat} {text : Text} (enough : (escape text).length ≤ bound) :
    fillUpTo arguments inner bound numbering (escape text) = .ok (text, numbering) := by
  induction text generalizing bound with
  | nil => rw [escape, List.flatMap_nil, fillUpTo]
  | cons character text inductionHypothesis =>
      rw [escape_cons] at enough ⊢
      by_cases opens : character = '\x7b'
      · subst character
        simp only [decide_true, Bool.true_or, if_true, List.cons_append, List.nil_append,
          List.length_cons] at enough ⊢
        obtain ⟨bound, rfl⟩ : ∃ fewer, bound = fewer + 1 := ⟨bound - 1, by omega⟩
        rw [fillUpTo, if_pos rfl]
        simp only [if_true, @inductionHypothesis bound (by omega)]
        rfl
      · by_cases closes : character = '\x7d'
        · subst character
          simp only [decide_true, Bool.or_true, if_true, List.cons_append, List.nil_append,
            List.length_cons] at enough ⊢
          obtain ⟨bound, rfl⟩ : ∃ fewer, bound = fewer + 1 := ⟨bound - 1, by omega⟩
          rw [fillUpTo, if_neg opens, if_pos rfl]
          simp only [if_true, @inductionHypothesis bound (by omega)]
          rfl
        · simp only [opens, closes, decide_false, Bool.or_self, Bool.false_eq_true, if_false,
            List.cons_append, List.nil_append, List.length_cons] at enough ⊢
          obtain ⟨bound, rfl⟩ : ∃ fewer, bound = fewer + 1 := ⟨bound - 1, by omega⟩
          rw [fillUpTo.eq_def]
          simp only [opens, closes, if_false, @inductionHypothesis bound (by omega)]
          rfl

/-- A text whose braces are doubled is a template of itself. -/
theorem fill_escape (text : Text) (arguments : List Text) :
    fill (escape text) arguments = .ok text := by
  have filled := fillUpTo_escape arguments (fillNested arguments 1) .undecided
    (Nat.le_refl (escape text).length)
  rw [fill, fillNested, filled]
  rfl

/-- A text without braces. -/
def Braceless (text : Text) : Prop :=
  forall character, character ∈ text -> character ≠ '\x7b' ∧ character ≠ '\x7d'

theorem Braceless.cons {character : Char} {text : Text}
    (noBrace : character ≠ '\x7b' ∧ character ≠ '\x7d') (braceless : Braceless text) :
    Braceless (character :: text) := by
  intro other member
  rcases List.mem_cons.mp member with rfl | later
  · exact noBrace
  · exact braceless other later

theorem Braceless.append {first second : Text} (firstBraceless : Braceless first)
    (secondBraceless : Braceless second) : Braceless (first ++ second) := by
  intro character member
  rcases List.mem_append.mp member with inFirst | inSecond
  · exact firstBraceless character inFirst
  · exact secondBraceless character inSecond

/-- Characters that pass a test which no brace passes make a text without braces. -/
theorem braceless_of_test {test : Char -> Bool} {text : Text}
    (opens : test '\x7b' = false) (closes : test '\x7d' = false)
    (passes : forall character, character ∈ text -> test character = true) : Braceless text := by
  intro character member
  have passed := passes character member
  constructor
  · rintro rfl
    rw [opens] at passed
    cases passed
  · rintro rfl
    rw [closes] at passed
    cases passed

theorem Braceless.escape_eq {text : Text} (braceless : Braceless text) : escape text = text := by
  induction text with
  | nil => rfl
  | cons character text inductionHypothesis =>
      have noBrace := braceless character List.mem_cons_self
      have rest := inductionHypothesis fun other member =>
        braceless other (List.mem_cons_of_mem character member)
      simp [escape_cons, noBrace.1, noBrace.2, rest]

instance (text : Text) : Decidable (Braceless text) :=
  List.decidableBAll (fun character => character ≠ '\x7b' ∧ character ≠ '\x7d') text

end Template

namespace Text

open Template

theorem braceless_hexDigits (value count : Nat) : Braceless (hexDigits value count) := by
  induction count generalizing value with
  | zero => intro character member; cases member
  | succ count inductionHypothesis =>
      refine (inductionHypothesis _).append ?_
      intro character member
      rw [List.mem_singleton.mp member]
      have small : value % 16 < 16 := Nat.mod_lt _ (by decide)
      generalize value % 16 = digit at small
      revert digit
      decide

theorem braceless_codeEscape (code : Nat) : Braceless (codeEscape code) := by
  unfold codeEscape
  split
  · exact .cons (by decide) (.cons (by decide) (braceless_hexDigits code 2))
  · split
    · exact .cons (by decide) (.cons (by decide) (braceless_hexDigits code 4))
    · exact .cons (by decide) (.cons (by decide) (braceless_hexDigits code 8))

theorem braceless_repr (number : Nat) : Braceless number.repr.toList := by
  have digits : forall character, character ∈ number.repr.toList ->
      Char.isDigit character = true := by
    rw [Nat.toList_repr]
    exact fun character member => Nat.isDigit_of_mem_toDigits (by decide) (by decide) member
  exact braceless_of_test (by decide) (by decide) digits

/-- Quoting brings no braces in. -/
theorem braceless_quoted {text : Text} (braceless : Braceless text) : Braceless (quoted text) := by
  have quote : quoteMark text ≠ '\x7b' ∧ quoteMark text ≠ '\x7d' := by
    unfold quoteMark
    split <;> decide
  have each (character : Char) (member : character ∈ text) :
      Braceless (quotedCharacter (quoteMark text) character) := by
    unfold quotedCharacter
    repeat' split
    · exact .cons (by decide) (.cons (braceless character member) (by decide))
    · decide
    · decide
    · decide
    · exact .cons (braceless character member) (by decide)
    · exact braceless_codeEscape _
  refine .cons quote (.append ?_ (.cons quote (by decide)))
  intro character member
  rcases List.mem_flatMap.mp member with ⟨source, inText, written⟩
  exact each source inText character written

end Text

namespace Notice

/-- A notice that is about no text. -/
def bare (message : Text) (diagnosis internal : Bool) : Notice :=
  ⟨message, [], 0, 0, diagnosis, internal⟩

theorem ofDraft_escape (colored : Bool) (message : Text) (diagnosis internal : Bool) :
    ofDraft colored { template := Template.escape message
                      diagnosis := diagnosis
                      internal := internal } = .ok (bare message diagnosis internal) := by
  rw [ofDraft, Template.fill_escape]
  rfl

theorem ofDraft_braceless (colored : Bool) {message : Text} (diagnosis internal : Bool)
    (braceless : Template.Braceless message) :
    ofDraft colored { template := message
                      diagnosis := diagnosis
                      internal := internal } = .ok (bare message diagnosis internal) := by
  have made := ofDraft_escape colored message diagnosis internal
  rwa [braceless.escape_eq] at made

/-- What is said about a text that cannot be read beyond a position. -/
def ofLocation (colored : Bool) (location : Location) (fragment : Text) : Notice where
  message :=
    if fragment.isEmpty then
      "'".toList ++ Paint.bold colored location.line ++ "' ends unexpectedly".toList
    else "unable to parse '".toList ++ Paint.bold colored fragment ++ "'".toList
  subject := location.line
  start := location.column
  stop := location.line.length
  diagnosis := true
  internal := false

theorem fill_unexpectedEnd (line : Text) :
    Template.fill "'\x7b\x7d' ends unexpectedly".toList [line] =
      .ok ("'".toList ++ line ++ "' ends unexpectedly".toList) :=
  rfl

theorem fill_unparsed (line fragment : Text) :
    Template.fill "unable to parse '\x7b1\x7d'".toList [line, fragment] =
      .ok ("unable to parse '".toList ++ fragment ++ "'".toList) :=
  rfl

theorem ofDraft_location (colored : Bool) (location : Location) (fragment : Text) :
    ofDraft colored (location.draft fragment) = .ok (ofLocation colored location fragment) := by
  unfold Location.draft ofLocation
  split
  · simp only [ofDraft, List.map_cons, List.map_nil, fill_unexpectedEnd]
    rfl
  · have here : ¬ (location.line.length : Int) = -1 := by omega
    simp only [ofDraft, List.map_cons, List.map_nil, fill_unparsed, if_neg here]
    rfl

end Notice

namespace Handler

/-- What is said about a program that is nested too deeply. -/
def depthMessage : Text :=
  "expression is nested too deeply, maximum recursion depth exceeded".toList

/-- What is said about a fault that nobody has foreseen. -/
def faultMessage (cause : Fault) : Text :=
  "unknown error: '".toList ++ cause.category.toList ++ ": ".toList ++ cause.message ++
    "'".toList

theorem settle_of_unforeseen (handler : Handler) {cause : Fault} (unforeseen : cause ≠ .tooDeep) :
    handler.settle (.fault cause) =
      (let (handler, output, result) :=
        handler.throwDraft { template := faultMessage cause, internal := true }
       (handler, output, result.bind fun _ => .error (.fault cause))) := by
  delta settle
  dsimp only
  split
  · contradiction
  · contradiction
  · next isDeep =>
    cases isDeep
    exact absurd rfl unforeseen
  · contradiction
  · rfl

theorem throwDraft_braceless (handler : Handler) {message : Text} (diagnosis internal : Bool)
    (braceless : Template.Braceless message) :
    handler.throwDraft { template := message, diagnosis := diagnosis, internal := internal } =
      handler.throw (.bare message diagnosis internal) := by
  rw [throwDraft, Notice.ofDraft_braceless handler.colored diagnosis internal braceless]

theorem settle_tooDeep_eq_throw (handler : Handler) :
    handler.settle (.fault .tooDeep) = handler.throw (.bare depthMessage true false) := by
  have braceless : Template.Braceless depthMessage := by decide
  have reported : handler.settle (.fault .tooDeep) =
      handler.throwDraft { template := depthMessage } := rfl
  rw [reported, throwDraft_braceless handler true false braceless]

section Lasting

variable {handler : Handler} (lasting : handler.fatal = false)
include lasting

theorem throw_of_lasting (notice : Notice) :
    handler.throw notice = (handler.clearLines, handler.report notice, .ok ()) := by
  rw [throw, lasting]
  rfl

theorem settle_notice (notice : Notice) :
    handler.settle (.notice notice) = (handler.clearLines, handler.report notice, .ok ()) :=
  throw_of_lasting lasting notice

theorem settle_tooDeep :
    handler.settle (.fault .tooDeep) =
      (handler.clearLines, handler.report (.bare depthMessage true false), .ok ()) := by
  rw [settle_tooDeep_eq_throw, throw_of_lasting lasting]

/-- A fault that nobody has foreseen is reported and then passed on. -/
theorem settle_fault {cause : Fault} (unforeseen : cause ≠ .tooDeep)
    (braceless : Template.Braceless (faultMessage cause)) :
    handler.settle (.fault cause) =
      (handler.clearLines, handler.report (.bare (faultMessage cause) true true),
        .error (.fault cause)) := by
  rw [settle_of_unforeseen handler unforeseen, throwDraft_braceless handler true true braceless,
    throw_of_lasting lasting]
  rfl

end Lasting

/-- Under which notice something that escapes from a piece of work is reported. -/
inductive Tells : Raised -> Notice -> Prop where
  | notice (notice : Notice) : Tells (.notice notice) notice
  | tooDeep : Tells (.fault .tooDeep) (.bare depthMessage true false)
  | fault {cause : Fault} (unforeseen : cause ≠ .tooDeep)
      (braceless : Template.Braceless (faultMessage cause)) :
      Tells (.fault cause) (.bare (faultMessage cause) true true)

theorem throw_of_fatal {handler : Handler} (fatal : handler.fatal = true) (notice : Notice) :
    handler.throw notice = (handler, handler.report notice, .error (.exit (.number 1))) := by
  rw [throw, fatal]
  rfl

/-- A fatal handler ends the program with the report, and nothing else is passed on. -/
theorem settle_of_fatal {handler : Handler} (fatal : handler.fatal = true) {raised : Raised}
    {notice : Notice} (tells : Tells raised notice) :
    handler.settle raised = (handler, handler.report notice, .error (.exit (.number 1))) := by
  cases tells with
  | notice => exact throw_of_fatal fatal notice
  | tooDeep => rw [settle_tooDeep_eq_throw, throw_of_fatal fatal]
  | fault unforeseen braceless =>
      rw [settle_of_unforeseen handler unforeseen,
        throwDraft_braceless handler true true braceless, throw_of_fatal fatal]
      rfl

end Handler

end SequenceCalculator
