/-!
Sets of code points as ascending, disjoint runs: membership by bisection, the set operations on
sorted runs, and the text form in which the tables of properties are written.
-/
namespace Linewise

def lastCode : Nat := 0x10FFFF

/-- The code points from `first` to `last`, both included. -/
structure CodeRun where
  first : Nat
  last : Nat
deriving DecidableEq, Repr, Inhabited

/-- A set of code points, as ascending runs with a gap between neighbours. -/
structure CodeSet where
  runs : Array CodeRun
deriving DecidableEq, Repr, Inhabited

namespace CodeSet

/-- Joins neighbours that touch or overlap, in runs that ascend by their first code point. -/
def join : List CodeRun → List CodeRun
  | a :: b :: rest =>
      if b.first ≤ a.last + 1 then join (⟨a.first, max a.last b.last⟩ :: rest)
      else a :: join (b :: rest)
  | runs => runs
termination_by runs => runs.length

def ofRuns (runs : List CodeRun) : CodeSet :=
  let kept := runs.filter fun r => r.first ≤ r.last
  ⟨(join (kept.mergeSort fun a b => a.first ≤ b.first)).toArray⟩

def empty : CodeSet := ⟨#[]⟩

def full : CodeSet := ⟨#[⟨0, lastCode⟩]⟩

def ofCode (n : Nat) : CodeSet := ⟨#[⟨n, n⟩]⟩

def isEmpty (s : CodeSet) : Bool := s.runs.isEmpty

private def bisect (runs : Array CodeRun) (code low high : Nat) : Bool :=
  if low < high then
    let mid := (low + high) / 2
    match runs[mid]? with
    | none => false
    | some r =>
        if code < r.first then bisect runs code low mid
        else if r.last < code then bisect runs code (mid + 1) high
        else true
  else false
termination_by high - low

def containsCode (s : CodeSet) (code : Nat) : Bool :=
  bisect s.runs code 0 s.runs.size

def contains (s : CodeSet) (c : Char) : Bool := s.containsCode c.toNat

def union (s t : CodeSet) : CodeSet := ofRuns (s.runs.toList ++ t.runs.toList)

def unions (sets : List CodeSet) : CodeSet := ofRuns (sets.flatMap fun s => s.runs.toList)

private def gaps (next : Nat) : List CodeRun → List CodeRun
  | [] => if next ≤ lastCode then [⟨next, lastCode⟩] else []
  | r :: rest =>
      if next < r.first then ⟨next, r.first - 1⟩ :: gaps (r.last + 1) rest
      else gaps (r.last + 1) rest

def complement (s : CodeSet) : CodeSet := ⟨(gaps 0 s.runs.toList).toArray⟩

def inter (s t : CodeSet) : CodeSet := (s.complement.union t.complement).complement

def diff (s t : CodeSet) : CodeSet := (s.complement.union t).complement

def symmDiff (s t : CodeSet) : CodeSet := (s.diff t).union (t.diff s)

def last? (s : CodeSet) : Option Nat := s.runs.back?.map CodeRun.last

private def hexValue (digits : String) : Nat :=
  digits.toList.foldl
    (fun n c => n * 16 + if c.isDigit then c.toNat - '0'.toNat else c.toNat - 'A'.toNat + 10) 0

/-- A code point, a run `first-last`, or every second code point of a run, `first-last/2`. -/
def runsOfWord (word : String) : List CodeRun :=
  match word.splitOn "-" with
  | [first, last] =>
      let low := hexValue first
      match last.splitOn "/" with
      | [high, _] =>
          (List.range ((hexValue high - low) / 2 + 1)).map fun k => ⟨low + 2 * k, low + 2 * k⟩
      | _ => [⟨low, hexValue last⟩]
  | _ => [⟨hexValue word, hexValue word⟩]

/-- The code point that a word of a table stands for. -/
def codeOfWord (word : String) : Nat := hexValue word

def ofTable (rows : List String) : CodeSet :=
  ofRuns (rows.flatMap fun row => (row.splitOn " ").flatMap runsOfWord)

end CodeSet

end Linewise
