import Linewise.Unicode.CodeSet
import Linewise.Unicode.Table.Script

/-!
The scripts of code points in Unicode 16.0. A code point has one script, but it may be used with
several.
-/
namespace Linewise.Unicode

def script? (name : String) : Option CodeSet :=
  (Table.script.find? fun e => e.1.contains name).map fun e => CodeSet.ofTable e.2.1

/-- What is used with the script of that name. A code point that is common to scripts, or inherits
one, is not counted as such where the scripts it is used with are known. -/
def scriptExtension? (name : String) : Option CodeSet :=
  (Table.script.find? fun e => e.1.contains name).map fun (names, codes, others) =>
    if names.contains "common" || names.contains "inherited" then
      (CodeSet.ofTable codes).diff (CodeSet.ofTable (Table.script.flatMap fun e => e.2.2))
    else CodeSet.ofTable (codes ++ others)

end Linewise.Unicode
