import Linewise.Settings.Basic

/-!
What can be asked for on the command line, and what can be wrong there.
-/
namespace Linewise.CommandLine

/-- Arguments that stand by themselves. -/
inductive Flag
  | write
  | json
  | interactive
deriving DecidableEq, Repr

/-- Arguments that take a value. -/
inductive Parameter
  | input
  | status
  | color
deriving DecidableEq, Repr

/-- Requests for a text, which make up for all other arguments. -/
inductive Notice
  | help
  | version
deriving DecidableEq, Repr

/-- What the name of an argument stands for. -/
inductive Meaning
  | flag (f : Flag)
  | parameter (p : Parameter)
  | notice (n : Notice)
deriving DecidableEq, Repr

namespace Meaning

def ofLong? : String → Option Meaning
  | "input" => some (parameter .input)
  | "write" => some (flag .write)
  | "status" => some (parameter .status)
  | "color" => some (parameter .color)
  | "json" => some (flag .json)
  | "interactive" => some (flag .interactive)
  | "help" => some (notice .help)
  | "version" => some (notice .version)
  | _ => none

def ofShort? : Char → Option Meaning
  | 'i' => some (parameter .input)
  | 'w' => some (flag .write)
  | 's' => some (parameter .status)
  | 'j' => some (flag .json)
  | 'I' => some (flag .interactive)
  | 'h' => some (notice .help)
  | 'V' => some (notice .version)
  | _ => none

/-- How an argument is named in a message. -/
def title : Meaning → String
  | flag .write => "--write"
  | flag .json => "--json"
  | flag .interactive => "--interactive"
  | parameter .input => "--input <INPUT>"
  | parameter .status => "--status <STATUS>"
  | parameter .color => "--color <COLOR>"
  | notice .help => "--help"
  | notice .version => "--version"

end Meaning

inductive UsageError
  | unexpectedArgument (text : String)
  | unexpectedValue (value : String) (of : Meaning)
  | missingValue (of : Parameter)
  | repeated (argument : Meaning)
  | badColor (value : String)
  | conflict (first second : Flag)
  | missingRequired
deriving DecidableEq, Repr

def UsageError.message : UsageError → String
  | unexpectedArgument text => "unexpected argument '" ++ text ++ "' found"
  | unexpectedValue value m =>
      "unexpected value '" ++ value ++ "' for '" ++ m.title ++ "' found; no more were expected"
  | missingValue p =>
      "a value is required for '" ++ (Meaning.parameter p).title ++ "' but none was supplied"
  | repeated m => "the argument '" ++ m.title ++ "' cannot be used multiple times"
  | badColor value =>
      "invalid value '" ++ value ++ "' for '" ++ (Meaning.parameter .color).title ++ "'"
  | conflict first second =>
      "the argument '" ++ (Meaning.flag first).title ++ "' cannot be used with '" ++
        (Meaning.flag second).title ++ "'"
  | missingRequired => "the following required arguments were not provided:"

/-- What is asked for on the command line. -/
structure Options where
  rules : List String := []
  input : Option String := none
  write : Bool := false
  status : Option String := none
  color : Option ColorChoice := none
  json : Bool := false
  interactive : Bool := false
deriving DecidableEq, Repr

def versionText : String := "ssed 0.1.0\n"

def helpLines : List String :=
  [
    "ssed is a line-oriented text transformer: sed-like rules with if/between " ++
      "blocks, line ranges and status branches.",
    "",
    "Usage: ssed [OPTIONS] [RULES]...",
    "",
    "Arguments:",
    "  [RULES]...  Rules to apply, in order (e.g. 's/foo/bar', 'p:-1', 'if/x/ \x7b " ++
      "g/a/b \x7d')",
    "",
    "Options:",
    "  -i, --input <INPUT>    Read from a file instead of stdin",
    "  -w, --write            Write the result back to the input file instead of stdout",
    "  -s, --status <STATUS>  Exit status of the previous command, used by `status:` rules",
    "      --color <COLOR>    When to color output [possible values: auto, always, never]",
    "  -j, --json             Output as JSON",
    "  -I, --interactive      Edit one more rule with a live preview before running",
    "  -h, --help             Print help",
    "  -V, --version          Print version"
  ]

/-- Each line with its line feed. -/
def helpText : String := String.join (helpLines.map (· ++ "\n"))

def Notice.text : Notice → String
  | help => helpText
  | version => versionText

end Linewise.CommandLine
