import SequenceCalculator.Text.Quoted

namespace SequenceCalculator
namespace CommandLine

/-!
Options of the command line, and the ways in which they can be misused.
-/

/-- An option. -/
inductive Flag where
  /-- Shows how the program is used. -/
  | help
  /-- Sets which journal entries are shown.  It takes one argument. -/
  | level
deriving DecidableEq

namespace Flag

/-- The long name of an option, which may be abbreviated. -/
def longName : Flag -> Text
  | help => "--help".toList
  | level => "--log-level".toList

/-- The short name of an option. -/
def shortName? : Flag -> Option Text
  | help => some "-h".toList
  | level => none

/-- What an option is called in a report. -/
def title : Flag -> Text
  | help => "-h/--help".toList
  | level => "--log-level".toList

/-- All options, in the order in which they are listed. -/
def all : List Flag := [help, level]

/-- The option with a given name. -/
def ofName? (name : Text) : Option Flag :=
  all.find? fun flag => flag.longName == name || flag.shortName? == some name

end Flag

/-- How much of the journal is shown. -/
inductive Level where
  | debug
  | info
  | warning
  | error
deriving DecidableEq

namespace Level

/-- The name of a level. -/
def name : Level -> Text
  | debug => "DEBUG".toList
  | info => "INFO".toList
  | warning => "WARNING".toList
  | error => "ERROR".toList

/-- All levels, in the order in which they are listed. -/
def all : List Level := [debug, info, warning, error]

/-- The level with a given name. -/
def ofName? (text : Text) : Option Level :=
  all.find? fun level => level.name == text

end Level

/-- What is wrong with a command line. -/
inductive Misuse where
  /-- An abbreviation stands for more than one option. -/
  | ambiguous (argument : Text) (matching : List Flag)
  /-- An option has no argument although it needs one. -/
  | noArgument (flag : Flag)
  /-- An option has an argument although it takes none. -/
  | ignored (flag : Flag) (argument : Text)
  /-- A level has none of the known names. -/
  | unknownLevel (name : Text)
  /-- Some arguments have no meaning. -/
  | unrecognized (arguments : List Text)
deriving DecidableEq

namespace Misuse

/-- The report about an option. -/
def about (flag : Flag) (text : Text) : Text :=
  "argument ".toList ++ flag.title ++ ": ".toList ++ text

/-- The report about a misuse. -/
def message : Misuse -> Text
  | ambiguous argument matching =>
      "ambiguous option: ".toList ++ argument ++ " could match ".toList ++
        Text.join ", ".toList (matching.map Flag.longName)
  | noArgument flag => about flag "expected one argument".toList
  | ignored flag argument =>
      about flag ("ignored explicit argument ".toList ++ Text.quoted argument)
  | unknownLevel name =>
      about .level ("invalid choice: ".toList ++ Text.quoted name ++
        " (choose from ".toList ++
        Text.join ", ".toList (Level.all.map fun level => Text.quoted level.name) ++
        ")".toList)
  | unrecognized arguments =>
      "unrecognized arguments: ".toList ++ Text.join " ".toList arguments

end Misuse

end CommandLine
end SequenceCalculator
