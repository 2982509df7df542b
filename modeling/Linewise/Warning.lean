import Linewise.Pattern.Report
import Linewise.Rule.Reader

/-!
Warnings about rules. None of them stops a run: a rule that cannot be read does nothing, and a
pattern that cannot be compiled never matches.
-/
namespace Linewise

inductive Warning
  /-- The rule of that number, counted from 1, cannot be read. -/
  | unreadableRule (number : Nat) (source : String) (error : ReadError)
  | badPattern (source : String) (error : PatternError)
deriving DecidableEq, Repr

namespace Warning

def text : Warning → String
  | unreadableRule number source e => "rule " ++ toString number ++ ": " ++ e.message source
  | badPattern source e => "invalid regex '" ++ source ++ "': " ++ e.message source

/-- The number of the rule that a warning is about, if it knows it. -/
def rule? : Warning → Option Nat
  | unreadableRule number _ _ => some number
  | badPattern _ _ => none

/-- The number of bytes before the place that a warning is about, if it knows it. -/
def position? : Warning → Option Nat
  | unreadableRule _ source e => some (e.offset source)
  | badPattern _ _ => none

end Warning

end Linewise
