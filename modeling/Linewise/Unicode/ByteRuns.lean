import Linewise.Unicode.CodeSet

/-!
Sets of code points as they stand in UTF-8. A run of code points is cut until each piece is a
sequence of runs of bytes, one for every place, and any choice of bytes out of them is the text of a
code point of the piece. Pieces come in ascending order.
-/
namespace Linewise

/-- The bytes from `first` to `last`, both included. -/
structure ByteRun where
  first : UInt8
  last : UInt8
deriving DecidableEq, Repr

namespace CodeRun

/-- Code points after which a run may have to be cut: where the number of bytes changes, and where
a block of code points that share their first bytes is left or entered in the middle. -/
private def cuts (first last : Nat) : List Nat :=
  [0x7F, 0x7FF, 0xFFFF] ++ [64, 4096, 262144].flatMap fun block =>
    (if first % block = 0 then [] else [first - first % block + (block - 1)]) ++
      (if last % block = block - 1 then [] else [last - last % block - 1])

/-- The code point after which a run is cut first, if it must be cut. -/
private def cut? (first last : Nat) : Option Nat :=
  if last ≤ 0x7F then none else (cuts first last).find? fun c => first ≤ c ∧ c < last

private theorem cut?_bounds {first last c : Nat} (h : cut? first last = some c) :
    first ≤ c ∧ c < last := by
  unfold cut? at h
  split at h
  · cases h
  · have found := List.find?_some h
    exact of_decide_eq_true found

private def bytesOf (n : Nat) : List UInt8 := String.utf8EncodeChar (Char.ofNat n)

private def pieces (first last : Nat) : List (List ByteRun) :=
  match h : cut? first last with
  | some c =>
      have := cut?_bounds h
      pieces first c ++ pieces (c + 1) last
  | none => [List.zipWith ByteRun.mk (bytesOf first) (bytesOf last)]
termination_by last - first
decreasing_by all_goals omega

/-- The pieces of a run; surrogates have no text. -/
def byteRuns (r : CodeRun) : List (List ByteRun) :=
  (if r.first ≤ min r.last 0xD7FF then pieces r.first (min r.last 0xD7FF) else []) ++
    (if max r.first 0xE000 ≤ r.last then pieces (max r.first 0xE000) r.last else [])

end CodeRun

def CodeSet.byteRuns (s : CodeSet) : List (List ByteRun) := s.runs.toList.flatMap CodeRun.byteRuns

end Linewise
