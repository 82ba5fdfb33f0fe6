import LineGrammar.Command.Arguments

/-!
What the command says when it does not start: its help, its version, or what is wrong with the
arguments; and the status it ends with. The wording of the help and of the faults is this library's
own, and short: a fault names its kind and not the argument. Nothing depends on it, and only the
outermost layer writes it.
-/

namespace LineGrammar

/-- The name of the command with its version. -/
def versionText : Text := "aoc-parse 0.1.0\n".toList

/-- How the command is used. -/
def helpText : Text :=
  ("Check puzzle input against a line grammar\n\nUsage: aoc-parse [OPTIONS] <INPUT>\n\n" ++
    "Arguments:\n  <INPUT>  Puzzle input file\n\nOptions:\n" ++
    "  -g, --grammar <GRAMMAR>  directions, nodes or network [default: network]\n" ++
    "  -k, --keep-going         Report failing lines and continue\n" ++
    "  -q, --quiet              Only output parsed values\n" ++
    "  -v, --verbose...         Increase log verbosity\n" ++
    "  -h, --help               Print help\n" ++
    "  -V, --version            Print version\n").toList

namespace ArgumentFault

/-- The status that the command ends with. Help and the version are no failures. -/
def status : ArgumentFault → Nat
  | help | version => 0
  | _ => 2

/-- What the command says instead of starting. -/
def message : ArgumentFault → Text
  | help => helpText
  | version => versionText
  | unknownArgument => "error: unexpected argument found\n".toList
  | invalidValue => "error: invalid value for an argument\n".toList
  | missingInput => "error: the following required argument was not provided: <INPUT>\n".toList
  | conflict => "error: an argument cannot be used multiple times\n".toList
  | tooManyValues => "error: unexpected value for a flag\n".toList

end ArgumentFault

end LineGrammar
