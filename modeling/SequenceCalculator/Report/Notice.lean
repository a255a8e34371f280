import SequenceCalculator.Report.Template
import SequenceCalculator.Text.Slice

namespace SequenceCalculator

/-!
Notices: what is reported about a text.

A notice is a message made from a template, and the text it is about.  A part
of that text can be pointed at: it is shown with the offending part marked and
an arrow below it.
-/

/-- The colour of a mark. -/
inductive Hue where
  | red
  | magenta
deriving DecidableEq

namespace Paint

/-- The escape sequence with a given number. -/
def sequence (code : Nat) : Text :=
  '\x1b' :: '[' :: (Nat.repr code).toList ++ ['m']

/-- Bold text, when colours are shown. -/
def bold (colored : Bool) (text : Text) : Text :=
  if colored then sequence 1 ++ text ++ sequence 0 else text

/-- Bold text of a colour, when colours are shown. -/
def strong (colored : Bool) (hue : Hue) (text : Text) : Text :=
  if colored then
    sequence 1 ++ sequence (match hue with | .red => 31 | .magenta => 35) ++ text ++
      sequence 0
  else text

end Paint

/-- A message about a text. -/
structure Notice where
  /-- The message. -/
  message : Text
  /-- The text that the message is about. -/
  subject : Text
  /-- Where the offending part starts. -/
  start : Int
  /-- Where the offending part ends. -/
  stop : Int
  /-- Whether the offending part is shown. -/
  diagnosis : Bool
  /-- Whether the notice reports a fault of the calculator itself. -/
  internal : Bool
deriving DecidableEq

/-- What a notice is made from.  An end of minus one is the end of the subject. -/
structure Notice.Draft where
  template : Text
  subjects : List Text := [[]]
  start : Int := 0
  stop : Int := -1
  diagnosis : Bool := true
  internal : Bool := false

namespace Notice

/-- Makes a notice: the template is filled with the subjects in bold, and the
first of them is what the notice is about. -/
def ofDraft (colored : Bool) (draft : Draft) : Except Fault Notice := do
  let message <- Template.fill draft.template (draft.subjects.map (Paint.bold colored))
  match draft.subjects with
  | [] => throw .noSubject
  | subject :: _ =>
      return { message := message
               subject := subject
               start := draft.start
               stop := if draft.stop = -1 then subject.length else draft.stop
               diagnosis := draft.diagnosis
               internal := draft.internal }

/-- The subject with the offending part marked, and an arrow below that part. -/
def diagnose (colored : Bool) (hue : Hue) (notice : Notice) : Text :=
  let stop := max notice.stop (notice.start + 1)
  "  ".toList ++ notice.subject.takeTo notice.start ++
    Paint.strong colored hue (notice.subject.between notice.start stop) ++
    notice.subject.dropTo stop ++ ['\n'] ++
    "  ".toList ++ Text.spaces notice.start ++
    Paint.strong colored hue
      ('^' :: List.replicate (stop - notice.start - 1).toNat '~')

/-- Whether a report of the notice shows the offending part. -/
def showsPart (notice : Notice) : Bool :=
  !notice.internal && !notice.subject.isEmpty && notice.diagnosis

end Notice

end SequenceCalculator
