import Linewise.Rule.Run

/-!
Trying a rule while it is edited: it runs after the rules that were given beforehand, over the same
input. Nobody is warned of rules or patterns that are wrong, but an edited rule that cannot be read
leaves nothing to show.
-/
namespace Linewise.Prompt

structure Trial where
  rules : List (Rule String)
  status : Option String
  input : Document

namespace Trial

def ofSources (sources : List String) (status : Option String) (input : Document) : Trial :=
  ⟨(Rule.readAll 1 sources).1, status, input⟩

/-- The output with an edited rule. White space alone stands for no rule at all. -/
def preview (t : Trial) (text : List Char) : Except ReadError Document := do
  let source := String.ofList text
  let edited ← if trimWhite source = [] then pure [] else (Rule.read source).map fun r => [r]
  return Rule.runAll t.status (Rule.compileAll (t.rules ++ edited)).1 t.input

end Trial

end Linewise.Prompt
