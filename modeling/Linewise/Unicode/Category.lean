import Linewise.Unicode.CodeSet
import Linewise.Unicode.Table.Category

/-!
The general categories of code points in Unicode 16.0. Each code point has one; the groups of
categories have names as well.
-/
namespace Linewise.Unicode

/-- The union of the categories whose two-letter names start so. -/
def categoryUnion (start : String) : CodeSet :=
  CodeSet.ofTable ((Table.category.filter fun e => start.isPrefixOf e.1).flatMap Prod.snd)

/-- The union of several categories, or groups of them. -/
def categories (starts : List String) : CodeSet := CodeSet.unions (starts.map categoryUnion)

def decimalDigits : CodeSet := categoryUnion "Nd"

/-- All code points that a table of categories lists. -/
def assigned : CodeSet := CodeSet.ofTable (Table.category.flatMap Prod.snd)

private def unassigned : CodeSet :=
  assigned.complement.diff (CodeSet.ofRuns [⟨0xD800, 0xDFFF⟩])

/-- The short name behind a long name of a general category. -/
private def categoryShortName (name : String) : String :=
  match name with
  | "other" => "c" | "control" | "cntrl" => "cc" | "format" => "cf" | "unassigned" => "cn"
  | "privateuse" => "co" | "letter" => "l" | "casedletter" => "lc" | "lowercaseletter" => "ll"
  | "modifierletter" => "lm" | "otherletter" => "lo" | "titlecaseletter" => "lt"
  | "uppercaseletter" => "lu" | "mark" | "combiningmark" => "m" | "spacingmark" => "mc"
  | "enclosingmark" => "me" | "nonspacingmark" => "mn" | "number" => "n"
  | "decimalnumber" | "digit" => "nd" | "letternumber" => "nl" | "othernumber" => "no"
  | "punctuation" | "punct" => "p" | "connectorpunctuation" => "pc" | "dashpunctuation" => "pd"
  | "closepunctuation" => "pe" | "finalpunctuation" => "pf" | "initialpunctuation" => "pi"
  | "otherpunctuation" => "po" | "openpunctuation" => "ps" | "symbol" => "s"
  | "currencysymbol" => "sc" | "modifiersymbol" => "sk" | "mathsymbol" => "sm"
  | "othersymbol" => "so" | "separator" => "z" | "lineseparator" => "zl"
  | "paragraphseparator" => "zp" | "spaceseparator" => "zs"
  | short => short

/-- The general category of that name, if it is known; a group such as `L` is the union of its
categories. -/
def category? (name : String) : Option CodeSet :=
  match categoryShortName name with
  | "any" => some CodeSet.full
  | "ascii" => some (CodeSet.ofRuns [⟨0, 0x7F⟩])
  | "assigned" => some unassigned.complement
  | "cn" => some unassigned
  | "c" => some ((categoryUnion "C").union unassigned)
  | "lc" => some (categories ["Lu", "Ll", "Lt"])
  | short =>
      let start := short.capitalize
      if Table.category.any fun e => e.1 == start || (start.length == 1 && start.isPrefixOf e.1)
      then some (categoryUnion start) else none

end Linewise.Unicode
