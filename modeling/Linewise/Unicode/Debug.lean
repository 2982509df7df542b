import Linewise.Unicode.Property
import Linewise.Unicode.Table.Addition

/-!
Text in quotes for messages: what a reader could not see is written as an escape. What is
assigned is taken from Unicode 17.0.
-/
namespace Linewise

/-- Code points that nothing is drawn for although they are letters: the fillers of Hangul. -/
private def fillers : CodeSet :=
  CodeSet.ofRuns [⟨0x115F, 0x1160⟩, ⟨0x3164, 0x3164⟩, ⟨0xFFA0, 0xFFA0⟩]

/-- Characters that leave no mark of their own: controls, formats, blanks other than the space,
fillers, private and unassigned code points, and marks that extend the character before them. -/
private def invisible : CodeSet :=
  CodeSet.unions
    [Unicode.assigned.complement.diff (CodeSet.ofTable Unicode.Table.newCodes),
     Unicode.categoryUnion "C",
     (Unicode.categoryUnion "Z").diff (CodeSet.ofCode 0x20), fillers,
     Unicode.categories ["Mn", "Me"],
     (Unicode.stored "othergraphemeextend").inter (Unicode.categoryUnion "Mc"),
     CodeSet.ofTable Unicode.Table.newMarks]

private def visibleChar (c : Char) : List Char :=
  match c with
  | '\x00' => ['\\', '0']
  | '\t' => ['\\', 't']
  | '\n' => ['\\', 'n']
  | '\r' => ['\\', 'r']
  | '"' => ['\\', '"']
  | '\\' => ['\\', '\\']
  | c =>
      let plain := if c.toNat < 0x80 then 0x20 ≤ c.toNat && c.toNat < 0x7F
        else !invisible.contains c
      if plain then [c] else ['\\', 'u', '{'] ++ Nat.toDigits 16 c.toNat ++ ['}']

/-- A text in quotes, with escapes for quotes, backslashes and what cannot be seen. -/
def visible (s : String) : String :=
  "\"" ++ String.ofList (s.toList.flatMap visibleChar) ++ "\""

end Linewise
