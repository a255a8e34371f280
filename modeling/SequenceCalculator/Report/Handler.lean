import SequenceCalculator.Number.Numeral
import SequenceCalculator.Report.Notice

namespace SequenceCalculator

/-!
The handler: the last stop of everything that goes wrong.

The handler knows for each file which of its lines is being worked on.  It
reports notices together with those lines.  Work can be guarded by it: notices
and faults that escape from the work are reported, and a fault of an unknown
kind is passed on after its report.  A fatal handler ends the program after its
first report.
-/

/-- What is known about the line of a file that is being worked on. -/
structure Place where
  /-- The line, if there is one. -/
  line : Option Text := none
  /-- The number of the line. -/
  number : Option Int := none
deriving DecidableEq

namespace Place

/-- How the number of a line is shown. -/
def shownNumber (place : Place) : Text :=
  match place.number with
  | some number => Number.integerNumeral number
  | none => "None".toList

end Place

/-- The status with which a program ends. -/
inductive Status where
  /-- No status is given. -/
  | unstated
  | number (value : Int)
  /-- A last message instead of a number. -/
  | text (message : Text)
deriving DecidableEq

/-- Something that escapes from a piece of work. -/
inductive Raised where
  /-- A notice to be reported. -/
  | notice (notice : Notice)
  /-- A notice of a kind that the handler does not know. -/
  | strange (category : Text) (notice : Notice)
  /-- A fault. -/
  | fault (fault : Fault)
  /-- A fault from outside, with its category and message. -/
  | unknown (category message : Text)
  /-- An interrupt from the keyboard. -/
  | interrupt (message : Text)
  /-- The end of the program. -/
  | exit (status : Status)
deriving DecidableEq

namespace Raised

/-- The category that something is raised under. -/
def category : Raised -> Text
  | .notice _ => "GenericException".toList
  | .strange name _ => name
  | .fault cause => cause.category.toList
  | .unknown name _ => name
  | .interrupt _ => "KeyboardInterrupt".toList
  | .exit _ => "SystemExit".toList

/-- The message that something is raised with. -/
def message : Raised -> Text
  | .notice told => told.message
  | .strange _ told => told.message
  | .fault cause => cause.message
  | .unknown _ text => text
  | .interrupt text => text
  | .exit .unstated => "None".toList
  | .exit (.number value) => Number.integerNumeral value
  | .exit (.text last) => last

end Raised

/-- The handler. -/
structure Handler where
  /-- Whether a report ends the program. -/
  fatal : Bool
  /-- Whether reports are coloured. -/
  colored : Bool
  /-- The files and the lines that are being worked on, in the order in which the
  files were first mentioned. -/
  places : List (Text × Place)
deriving DecidableEq

namespace Handler

/-- A handler that knows no file yet. -/
def new (fatal colored : Bool) : Handler := ⟨fatal, colored, []⟩

/-- The places with one more, or with one replaced. -/
def setPlace (path : Text) (place : Place) :
    List (Text × Place) -> List (Text × Place)
  | [] => [(path, place)]
  | (known, old) :: rest =>
      if known = path then (path, place) :: rest
      else (known, old) :: setPlace path place rest

/-- Mentions a file. -/
def registerFile (handler : Handler) (path : Text) : Handler :=
  { handler with places := setPlace path {} handler.places }

/-- Notes that a line is being worked on. -/
def registerLine (handler : Handler) (path line : Text) (number : Int) : Handler :=
  { handler with places := setPlace path ⟨some line, some number⟩ handler.places }

/-- Notes that no line of a file is being worked on. -/
def removeLine (handler : Handler) (path : Text) : Handler :=
  { handler with places := setPlace path {} handler.places }

/-- Forgets all lines and keeps the files. -/
def clearLines (handler : Handler) : Handler :=
  { handler with places := handler.places.map fun (path, _) => (path, {}) }

/-- The place that was mentioned last, as the start of a warning. -/
def location (handler : Handler) : Text :=
  match handler.places.reverse.find? (fun (_, place) => place.line.isSome) with
  | some (path, place) =>
      Paint.bold handler.colored
        (path ++ ":".toList ++ place.shownNumber ++ ": ".toList)
  | none => []

/-- A text and the end of its line. -/
def line (text : Text) : Text := text ++ ['\n']

/-- The part of a report that points at the offending part of its subject. -/
def pointer (handler : Handler) (hue : Hue) (notice : Notice) : Text :=
  if notice.showsPart then line (notice.diagnose handler.colored hue) else []

/-- The text of a warning. -/
def warning (handler : Handler) (notice : Notice) : Text :=
  line (handler.location ++ Paint.strong handler.colored .magenta "warning: ".toList ++
    notice.message) ++ handler.pointer .magenta notice

/-- How the line of a file that is being worked on is shown.  No line is shown
where there is none or where it is empty. -/
def shownLine? (path : Text) (place : Place) : Option Text :=
  match place.line with
  | none => none
  | some [] => none
  | some text =>
      some (line ("  File '".toList ++ path ++ "', line ".toList ++ place.shownNumber ++
        ":".toList) ++ line ("    ".toList ++ text))

/-- The lines that are being worked on, as they are shown. -/
def shownLines (handler : Handler) : List Text :=
  handler.places.filterMap fun (path, place) => shownLine? path place

/-- The text of an error report. -/
def report (handler : Handler) (notice : Notice) : Text :=
  let lines := handler.shownLines
  (if 1 < lines.length then line "Traceback:".toList else []) ++
    lines.flatten ++
    (if notice.internal then
      Paint.strong handler.colored .red "[internal] ".toList
     else []) ++
    line (Paint.strong handler.colored .red "error: ".toList ++ notice.message) ++
    handler.pointer .red notice

/-- Reports a notice.  A fatal handler then ends the program; any other forgets
the lines that were being worked on. -/
def throw (handler : Handler) (notice : Notice) :
    Handler × Text × Except Raised Unit :=
  if handler.fatal then (handler, handler.report notice, .error (.exit (.number 1)))
  else (handler.clearLines, handler.report notice, .ok ())

/-- Reports a notice that is still to be made. -/
def throwDraft (handler : Handler) (draft : Notice.Draft) :
    Handler × Text × Except Raised Unit :=
  match Notice.ofDraft handler.colored draft with
  | .ok notice => handler.throw notice
  | .error fault => (handler, [], .error (.fault fault))

/-- Prints a warning that is still to be made. -/
def warnDraft (handler : Handler) (draft : Notice.Draft) : Text × Except Raised Unit :=
  match Notice.ofDraft handler.colored draft with
  | .ok notice => (handler.warning notice, .ok ())
  | .error fault => ([], .error (.fault fault))

/-- Deals with something that escaped from guarded work.  The answer tells
whether it is settled or what is passed on. -/
def settle (handler : Handler) (raised : Raised) : Handler × Text × Except Raised Unit :=
  match raised with
  | .interrupt _ => handler.throwDraft { template := "keyboard interrupt".toList }
  | .exit status => (handler, [], .error (.exit status))
  | .fault .tooDeep =>
      handler.throwDraft
        { template :=
            "expression is nested too deeply, maximum recursion depth exceeded".toList }
  | .notice notice => handler.throw notice
  | other =>
      let (handler, output, result) := handler.throwDraft
        { template := "unknown error: '".toList ++ other.category ++ ": ".toList ++
            other.message ++ "'".toList
          internal := true }
      (handler, output, result.bind fun _ => .error other)

end Handler

end SequenceCalculator
