/-!
What a user may settle once for all runs: when output is colored, and whether it is JSON.
-/
namespace Linewise

inductive ColorChoice
  | auto
  | always
  | never
deriving DecidableEq, Repr

namespace ColorChoice

def name : ColorChoice → String
  | auto => "auto"
  | always => "always"
  | never => "never"

def named? : String → Option ColorChoice
  | "auto" => some auto
  | "always" => some always
  | "never" => some never
  | _ => none

/-- Whether to color, given whether the environment asks for no color and whether the output is a
terminal. Only the automatic choice asks. -/
def enabled (choice : ColorChoice) (noColor isTerminal : Bool) : Bool :=
  match choice with
  | auto => !noColor && isTerminal
  | always => true
  | never => false

end ColorChoice

structure Settings where
  color : ColorChoice := .auto
  json : Bool := false
deriving DecidableEq, Repr

end Linewise
