import SequenceCalculator.CommandLine.Argument

namespace SequenceCalculator
namespace CommandLine

/-!
What a command line asks for.

Arguments are taken in order.  The first one that is no option names the file;
the divider next to it is dropped.  An option that asks for help settles the
matter at once, so that later mistakes go unnoticed.
-/

/-- The settings of a run. -/
structure Settings where
  /-- The file to run, unless statements are typed. -/
  file : Option Text := none
  level : Level := .warning
deriving DecidableEq

/-- What a command line asks for. -/
inductive Request where
  /-- How the program is used. -/
  | help
  /-- A run. -/
  | calculate (settings : Settings)
deriving DecidableEq

namespace Request

/-- What a request for help comes to.  The letter of its short name may be
repeated, and nothing else may follow it. -/
def ofHelp : Attached -> Except Misuse Request
  | .nothing => .ok help
  | .value text => .error (.ignored .help text)
  | .letters text =>
      let rest := text.dropWhile (· == 'h')
      if text.isEmpty || !rest.isEmpty then .error (.ignored .help rest) else .ok help

/-- The settings with a named level. -/
def setLevel (settings : Settings) (name : Text) : Except Misuse Settings :=
  match Level.ofName? name with
  | some level => .ok { settings with level := level }
  | none => .error (.unknownLevel name)

/-- What arguments ask for, after some have been taken. -/
def take (settings : Settings) (rejected : List Text) :
    List Argument -> Except Misuse Request
  | [] =>
      if rejected.isEmpty then .ok (calculate settings)
      else .error (.unrecognized rejected)
  | .flag .help attached :: _ => ofHelp attached
  | .flag .level .nothing :: .plain name :: rest =>
      (setLevel settings name).bind fun settings => take settings rejected rest
  | .flag .level .nothing :: _ => .error (.noArgument .level)
  | .flag .level (.value name) :: rest =>
      (setLevel settings name).bind fun settings => take settings rejected rest
  | .flag .level (.letters name) :: rest =>
      (setLevel settings name).bind fun settings => take settings rejected rest
  | .unknown text :: rest => take settings (rejected ++ [text]) rest
  | .divider :: .plain text :: rest =>
      if settings.file.isNone then take { settings with file := some text } rejected rest
      else take settings (rejected ++ [Argument.dividerText, text]) rest
  | .divider :: rest =>
      if settings.file.isNone then take settings rejected rest
      else take settings (rejected ++ [Argument.dividerText]) rest
  | .plain text :: .divider :: rest =>
      if settings.file.isNone then take { settings with file := some text } rejected rest
      else take settings (rejected ++ [text, Argument.dividerText]) rest
  | .plain text :: rest =>
      if settings.file.isNone then take { settings with file := some text } rejected rest
      else take settings (rejected ++ [text]) rest

/-- What a command line asks for. -/
def ofArguments (texts : List Text) : Except Misuse Request := do
  take {} [] (<- Argument.ofTexts texts)

end Request

end CommandLine
end SequenceCalculator
