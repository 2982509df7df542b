import Linewise.Unicode.Category
import Linewise.Unicode.Table.Break
import Linewise.Unicode.Table.Property

/-!
The binary properties of code points in Unicode 16.0: those that are stored, and those that are made
from them and from the general categories.
-/
namespace Linewise.Unicode

/-- What a table holds under a name. -/
def stored? (table : List (List String × List String)) (name : String) : Option CodeSet :=
  (table.find? fun e => e.1.contains name).map fun e => CodeSet.ofTable e.2

/-- A binary property that is stored. -/
def stored (name : String) : CodeSet := (stored? Table.binary name).getD CodeSet.empty

def lowercase : CodeSet := (categoryUnion "Ll").union (stored "otherlowercase")

def uppercase : CodeSet := (categoryUnion "Lu").union (stored "otheruppercase")

def alphabetic : CodeSet :=
  CodeSet.unions
    [lowercase, uppercase, categories ["Lt", "Lm", "Lo", "Nl"], stored "otheralphabetic"]

def whiteSpace : CodeSet := CodeSet.ofRuns
  [⟨0x9, 0xD⟩, ⟨0x20, 0x20⟩, ⟨0x85, 0x85⟩, ⟨0xA0, 0xA0⟩, ⟨0x1680, 0x1680⟩, ⟨0x2000, 0x200A⟩,
   ⟨0x2028, 0x2029⟩, ⟨0x202F, 0x202F⟩, ⟨0x205F, 0x205F⟩, ⟨0x3000, 0x3000⟩]

/-- What `\w` matches: letters, marks, digits, connectors and the two joiners. -/
def wordCodes : CodeSet :=
  CodeSet.unions [alphabetic, categories ["M", "Nd", "Pc"], CodeSet.ofRuns [⟨0x200C, 0x200D⟩]]

/-- Marks that extend the character before them. -/
def graphemeExtend : CodeSet :=
  (categories ["Mn", "Me"]).union (stored "othergraphemeextend")

private def graphemeBase : CodeSet :=
  assigned.diff ((categories ["Cc", "Cf", "Co", "Zl", "Zp"]).union graphemeExtend)

/-- What patterns are written with, and so is part of no identifier. -/
private def patternCodes : CodeSet :=
  (stored "patternsyntax").union (stored "patternwhitespace")

private def idStart : CodeSet :=
  ((categories ["L", "Nl"]).union (stored "otheridstart")).diff patternCodes

private def idContinue : CodeSet :=
  (CodeSet.unions
    [idStart, categories ["Mn", "Mc", "Nd", "Pc"], stored "otheridcontinue"]).diff patternCodes

private def caseIgnorable : CodeSet :=
  CodeSet.unions
    (categories ["Mn", "Me", "Cf", "Lm", "Sk"] ::
      ["midletter", "midnumlet", "singlequote"].filterMap (stored? Table.wordBreak))

/-- The binary property of that name, if it is known. -/
def binary? (name : String) : Option CodeSet :=
  match name with
  | "alphabetic" | "alpha" => some alphabetic
  | "whitespace" | "wspace" | "space" => some whiteSpace
  | "lowercase" | "lower" => some lowercase
  | "uppercase" | "upper" => some uppercase
  | "cased" => some (CodeSet.unions [lowercase, uppercase, categoryUnion "Lt"])
  | "caseignorable" | "ci" => some caseIgnorable
  | "changeswhencasemapped" | "cwcm" =>
      some (CodeSet.unions [stored "cwl", stored "cwt", stored "cwu"])
  | "graphemebase" | "grbase" => some graphemeBase
  | "graphemeextend" | "grext" => some graphemeExtend
  | "idstart" | "ids" => some idStart
  | "idcontinue" | "idc" => some idContinue
  | "math" => some ((categoryUnion "Sm").union (stored "othermath"))
  | "xidstart" | "xids" => some (idStart.diff (CodeSet.ofTable Table.notXidStart))
  | "xidcontinue" | "xidc" => some (idContinue.diff (CodeSet.ofTable Table.notXidContinue))
  | _ => stored? Table.binary name

end Linewise.Unicode
