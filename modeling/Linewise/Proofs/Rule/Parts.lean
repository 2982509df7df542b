import Linewise.Rule.Run

/-!
Where rules stand. The parts of a rule are the rule itself and the rules in its blocks, at every
depth. Each of them runs on whole documents or on one line at a time: the blocks of an `if` and of a
`between` see single lines, and a branch on the status hands on what it is given.
-/
namespace Linewise.Rule

/-- What a rule is run on. -/
inductive Place
  | document
  | line
deriving DecidableEq, Repr

structure Part (π : Type) where
  place : Place
  rule : Rule π

variable {π : Type}

mutual

def parts (place : Place) : Rule π → List (Part π)
  | .ifMatch p body => ⟨place, .ifMatch p body⟩ :: allParts .line body
  | .between start stop body => ⟨place, .between start stop body⟩ :: allParts .line body
  | .onStatus code body otherwise =>
      ⟨place, .onStatus code body otherwise⟩ :: (allParts place body ++ allParts place otherwise)
  | r => [⟨place, r⟩]

def allParts (place : Place) : List (Rule π) → List (Part π)
  | [] => []
  | r :: rs => r.parts place ++ allParts place rs

end

theorem forall_mem_allParts {place : Place} {rs : List (Rule π)} {P : Part π → Prop} :
    (∀ q ∈ allParts place rs, P q) ↔ ∀ r ∈ rs, ∀ q ∈ r.parts place, P q := by
  induction rs with
  | nil => simp [allParts]
  | cons r rs ih => rw [allParts, List.forall_mem_append, ih, List.forall_mem_cons]

theorem mem_parts (place : Place) (r : Rule π) : ⟨place, r⟩ ∈ r.parts place := by
  cases r <;> simp [parts]

section

variable {place : Place} {body otherwise : List (Rule π)} {P : Part π → Prop}

theorem forall_mem_parts_ifMatch {p : π} :
    (∀ q ∈ (ifMatch p body).parts place, P q) ↔
      P ⟨place, .ifMatch p body⟩ ∧ ∀ r ∈ body, ∀ q ∈ r.parts .line, P q := by
  rw [parts, List.forall_mem_cons, forall_mem_allParts]

theorem forall_mem_parts_between {start stop : π} :
    (∀ q ∈ (between start stop body).parts place, P q) ↔
      P ⟨place, .between start stop body⟩ ∧ ∀ r ∈ body, ∀ q ∈ r.parts .line, P q := by
  rw [parts, List.forall_mem_cons, forall_mem_allParts]

theorem forall_mem_parts_onStatus {code : String} :
    (∀ q ∈ (onStatus code body otherwise).parts place, P q) ↔
      P ⟨place, .onStatus code body otherwise⟩ ∧ (∀ r ∈ body, ∀ q ∈ r.parts place, P q) ∧
        ∀ r ∈ otherwise, ∀ q ∈ r.parts place, P q := by
  rw [parts, List.forall_mem_cons, List.forall_mem_append, forall_mem_allParts,
    forall_mem_allParts]

end

/-- Compiling leaves every rule in its place. -/
theorem forall_mem_parts_compile {P : Part Pattern → Prop} (r : Rule String) (place : Place) :
    (∀ q ∈ r.compile.1.parts place, P q) ↔
      ∀ q ∈ r.parts place, P ⟨q.place, q.rule.compile.1⟩ := by
  induction r generalizing place with
  | substitute _ _ _ | setLine _ _ | keepMatching _ | keepLines _ | keepAll | arrange _ | idle =>
      simp [compile, parts]
  | ifMatch p body ih | between start stop body ih =>
      simp only [compile, parts, List.forall_mem_cons, forall_mem_allParts, compileAll_fst,
        List.forall_mem_map]
      exact and_congr_right fun _ => forall₂_congr fun r hr => ih r hr .line
  | onStatus code body otherwise ih ih' =>
      simp only [compile, parts, List.forall_mem_cons, List.forall_mem_append,
        forall_mem_allParts, compileAll_fst, List.forall_mem_map]
      exact and_congr_right fun _ => and_congr (forall₂_congr fun r hr => ih r hr place)
        (forall₂_congr fun r hr => ih' r hr place)

theorem forall_mem_allParts_compileAll {P : Part Pattern → Prop} (rs : List (Rule String))
    (place : Place) :
    (∀ q ∈ allParts place (compileAll rs).1, P q) ↔
      ∀ q ∈ allParts place rs, P ⟨q.place, q.rule.compile.1⟩ := by
  rw [forall_mem_allParts, forall_mem_allParts, compileAll_fst, List.forall_mem_map]
  exact forall₂_congr fun r _ => forall_mem_parts_compile r place

end Linewise.Rule
