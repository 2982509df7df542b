/-!
Rules: what a line transformer can be told to do. A rule carries its patterns in a type of its own,
so that the same rules appear with patterns as text, as they are read, and with patterns that can
match, as they run. Positions of lines resolve here, since they need no pattern.
-/
namespace Linewise

/-- The greatest number of a line that can be written, and the greatest length of a document: the
greatest signed number of 64 bits. -/
def maxLineNumber : Nat := 9223372036854775807

/-- A choice of lines by position. Positions start at 1; negative ones count from the last line. -/
inductive LineSpec
  | index (n : Int)
  /-- Both ends belong to the range, and neither counts from the end. -/
  | range (first last : Int)
deriving DecidableEq, Repr

/-- The index of the line at position `n` among `len` lines, if there is one. -/
def resolvePosition (n : Int) (len : Nat) : Option Nat :=
  let index := if n < 0 then len + n else n - 1
  if n = 0 ∨ index < 0 ∨ len ≤ index then none else some index.toNat

/-- The indices that a choice selects among `len` lines, in ascending order. What lies outside the
document is left out. -/
def LineSpec.resolve (spec : LineSpec) (len : Nat) : List Nat :=
  match spec with
  | index n => (resolvePosition n len).toList
  | range a b =>
      let first := max a 1
      let last := min b len
      if last < first then [] else List.range' (first - 1).toNat (last - first + 1).toNat

inductive Arrangement
  | sort
  | reverse
  | join
deriving DecidableEq, Repr

/-- A rule with patterns of type `π`. -/
inductive Rule (π : Type)
  /-- Replaces the first match in each line, or every match. -/
  | substitute (pattern : π) (replacement : String) (everywhere : Bool)
  | setLine (line : Int) (text : String)
  | keepMatching (pattern : π)
  | keepLines (spec : LineSpec)
  | keepAll
  | arrange (how : Arrangement)
  /-- Runs a block on each matching line by itself. -/
  | ifMatch (pattern : π) (body : List (Rule π))
  /-- Runs a block on each line between a line that starts a section and one that ends it. -/
  | between (start stop : π) (body : List (Rule π))
  /-- Runs one of two blocks, by the exit status of the previous command. -/
  | onStatus (code : String) (body otherwise : List (Rule π))
  /-- Does nothing. It stands for a rule that could not be read. -/
  | idle
deriving Repr

instance {π : Type} : Inhabited (Rule π) := ⟨.idle⟩

/-- Induction over rules in which the rules of a block are at hand with the block. -/
@[elab_as_elim, induction_eliminator]
theorem Rule.induct {π : Type} {motive : Rule π → Prop}
    (substitute : ∀ p replacement everywhere, motive (.substitute p replacement everywhere))
    (setLine : ∀ line text, motive (.setLine line text))
    (keepMatching : ∀ p, motive (.keepMatching p))
    (keepLines : ∀ spec, motive (.keepLines spec))
    (keepAll : motive .keepAll)
    (arrange : ∀ how, motive (.arrange how))
    (ifMatch : ∀ p body, (∀ r ∈ body, motive r) → motive (.ifMatch p body))
    (between : ∀ start stop body, (∀ r ∈ body, motive r) → motive (.between start stop body))
    (onStatus : ∀ code body otherwise, (∀ r ∈ body, motive r) → (∀ r ∈ otherwise, motive r) →
      motive (.onStatus code body otherwise))
    (idle : motive .idle) (r : Rule π) : motive r :=
  @Rule.rec π motive (fun rs => ∀ r ∈ rs, motive r) substitute setLine keepMatching keepLines
    keepAll arrange ifMatch between onStatus idle (fun _ h => nomatch h)
    (fun _ _ hr hrs => List.forall_mem_cons.2 ⟨hr, hrs⟩) r

end Linewise
