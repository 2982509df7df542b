import Linewise.Unicode.CodeSet
import Linewise.Unicode.Table.Folding

/-!
Simple case folding: two code points are the same without case when they fold to the same one. The
classes of such code points are kept as arrays, and a set is closed under them.
-/
namespace Linewise.Unicode

private def foldingPairs (word : String) : List (Nat × Nat) :=
  match word.splitOn ">" with
  | [source, target] =>
      let codes := (CodeSet.runsOfWord source).flatMap fun r =>
        (List.range (r.last + 1 - r.first)).map (r.first + ·)
      let start := codes.headD 0
      codes.map fun c => (c, CodeSet.codeOfWord target + (c - start))
  | _ => []

/-- Each code point that folds to another one, with that one. -/
private def folds : List (Nat × Nat) :=
  (Table.folding.flatMap fun row => (row.splitOn " ").flatMap foldingPairs).mergeSort
    fun a b => a.2 ≤ b.2

private def groupByTarget : List (Nat × Nat) → List (List Nat) → List (List Nat)
  | [], groups => groups
  | (c, f) :: rest, (g :: members) :: groups =>
      if g == f then groupByTarget rest ((g :: c :: members) :: groups)
      else groupByTarget rest ([f, c] :: (g :: members) :: groups)
  | (c, f) :: rest, groups => groupByTarget rest ([f, c] :: groups)

/-- The classes of code points that differ in case alone, of two members at least. -/
def caseClasses : List (List Nat) := groupByTarget folds []

/-- The code points that differ from `n` in case alone, and `n`; none if there is no other. -/
def caseClass? (n : Nat) : Option (List Nat) := caseClasses.find? fun g => g.contains n

end Linewise.Unicode

namespace Linewise.CodeSet

/-- Adds every code point that differs from one of the set in case alone. -/
def foldCase (s : CodeSet) : CodeSet :=
  let touched := Unicode.caseClasses.filter fun g => g.any s.containsCode
  ofRuns (s.runs.toList ++ (touched.flatMap id).map fun n => ⟨n, n⟩)

end Linewise.CodeSet
