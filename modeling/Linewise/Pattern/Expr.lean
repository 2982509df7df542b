import Linewise.Pattern.Look
import Linewise.Unicode.CodeSet

/-!
What patterns mean: expressions over sets of characters and conditions on a position, with no flags
left. They are built by functions that keep them simple: sequences and choices are flattened, a
choice of single characters or of sets is a set, and what all branches of a choice start with is
taken out in front.
-/
namespace Linewise.Pattern

inductive Expr
  | empty
  | text (chars : List Char)
  | oneOf (set : CodeSet)
  | look (l : Look)
  | repeated (body : Expr) (least : Nat) (most : Option Nat) (greedy : Bool)
  | capture (index : Nat) (body : Expr)
  | concat (parts : List Expr)
  | choice (branches : List Expr)
deriving BEq

namespace Expr

instance : Inhabited Expr := ⟨.empty⟩

mutual

/-- Whether no match has any character. -/
def isZeroWidth : Expr → Bool
  | empty | look _ => true
  | text chars => chars.isEmpty
  | oneOf _ => false
  | repeated body _ most _ => most == some 0 || (most.isSome && body.isZeroWidth)
  | capture _ body => body.isZeroWidth
  | concat parts => allZeroWidth parts
  | choice branches => allZeroWidth branches

def allZeroWidth : List Expr → Bool
  | [] => true
  | e :: es => e.isZeroWidth && allZeroWidth es

end

mutual

/-- The least number of characters that must match, as far as it can be read off; none for what
cannot match at all. -/
def shortest : Expr → Option Nat
  | empty | look _ => some 0
  | text chars => some chars.length
  | oneOf set => if set.isEmpty then none else some 1
  | repeated body least _ _ => body.shortest.map (· * least)
  | capture _ body => body.shortest
  | concat parts => sumShortest parts
  | choice branches => minShortest branches

def sumShortest : List Expr → Option Nat
  | [] => some 0
  | e :: es => return (← e.shortest) + (← sumShortest es)

def minShortest : List Expr → Option Nat
  | [] => none
  | [e] => e.shortest
  | e :: es => return min (← e.shortest) (← minShortest es)

end

/-- Whether every match is known to have a character. -/
def consumes (e : Expr) : Bool := e.shortest.any (0 < ·)

/-- One character out of a set; a set of one is that character. -/
def ofSet (set : CodeSet) : Expr :=
  match set.runs.toList with
  | [r] => if r.first = r.last then text [Char.ofNat r.first] else oneOf set
  | _ => oneOf set

/-- Joins text that stands side by side and drops what is empty. -/
private def joinText : List Expr → List Expr
  | empty :: es => joinText es
  | text a :: es =>
      match joinText es with
      | text b :: rest => text (a ++ b) :: rest
      | rest => text a :: rest
  | e :: es => e :: joinText es
  | [] => []

def ofParts (parts : List Expr) : Expr :=
  let flat := parts.flatMap fun
    | concat inner => inner
    | e => [e]
  match joinText flat with
  | [] => empty
  | [e] => e
  | es => concat es

private def single? : Expr → Option CodeRun
  | text [c] => some ⟨c.toNat, c.toNat⟩
  | _ => none

private def set? : Expr → Option CodeSet
  | oneOf set => some set
  | _ => none

private def sequence? : Expr → Option (List Expr)
  | concat parts => some parts
  | _ => none

private def commonStart : List Expr → List Expr → List Expr
  | a :: as, b :: bs => if a == b then a :: commonStart as bs else []
  | _, _ => []

private def choiceIn : Nat → List Expr → Expr
  | 0, branches => choice branches
  | rounds + 1, branches =>
      let flat := branches.flatMap fun
        | choice inner => inner
        | e => [e]
      match flat with
      | [] => oneOf CodeSet.empty
      | [e] => e
      | _ =>
      match flat.mapM single? with
      | some chars => ofSet (CodeSet.ofRuns chars)
      | none =>
      match flat.mapM set? with
      | some sets => ofSet (CodeSet.unions sets)
      | none =>
      match flat.mapM sequence? with
      | none => choice flat
      | some sequences =>
          let start := sequences.tail.foldl commonStart (sequences.headD [])
          if start.isEmpty then choice flat
          else
            let rests := sequences.map fun s => ofParts (s.drop start.length)
            ofParts (start ++ [choiceIn rounds rests])

/-- A choice that prefers the first branch with a match. When every branch is a sequence, the parts
with which all of them start come before the choice. What is left may again be such a choice; the
rounds exceed every depth of nesting. -/
def ofBranches (branches : List Expr) : Expr := choiceIn 256 branches

/-- A repetition. What has no width is worth repeating at most once. -/
def ofRepetition (body : Expr) (least : Nat) (most : Option Nat) (greedy : Bool) : Expr :=
  let (least, most) :=
    if body.isZeroWidth then (min least 1, some (min (most.getD 1) 1)) else (least, most)
  if most = some 0 then empty
  else if least = 1 ∧ most = some 1 then body
  else repeated body least most greedy

end Expr

end Linewise.Pattern
