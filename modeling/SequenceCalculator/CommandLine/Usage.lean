import SequenceCalculator.CommandLine.Misuse

namespace SequenceCalculator
namespace CommandLine

/-!
How the program is used, in words.
-/

namespace Usage

/-- The forms of a command line. -/
def synopsis : Text :=
  ("usage: seqcalc [-h] [--log-level \x7bDEBUG,INFO,WARNING,ERROR\x7d] [file]\n").toList

/-- The full description of the command line. -/
def description : Text :=
  synopsis ++
  ("\npositional arguments:\n" ++
    "  file                  file to interpret and run (if empty, goes to command-\n" ++
    "                        line mode)\n" ++
    "\noptions:\n" ++
    "  -h, --help            show this help message and exit\n" ++
    "  --log-level \x7bDEBUG,INFO,WARNING,ERROR\x7d\n" ++
    "                        logging level (default: WARNING)\n").toList

/-- The report about a misuse of the command line. -/
def complaint (misuse : Misuse) : Text :=
  synopsis ++ "seqcalc: error: ".toList ++ misuse.message ++ ['\n']

end Usage

end CommandLine
end SequenceCalculator
