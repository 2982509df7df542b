import Linewise.Proofs.Rule.LineCount
import Linewise.Proofs.Rule.Parts

/-!
Rules that can be left out. In a block that runs on one line at a time there is never a second line,
so sorting and reversing have nothing to move, and a section that starts has no line left to hold.
Rules of these kinds can be deleted from all such blocks without any change to what the rules leave
of a document.
-/
namespace Linewise.Rule

/-- Whether a rule leaves every document of at most one line as it is. -/
def isDeadOnLine {π : Type} : Rule π → Bool
  | .arrange .sort | .arrange .reverse | .between _ _ _ => true
  | _ => false

section

variable {π : Type}

mutual

/-- A rule without the dead rules in its blocks. -/
def pruned (place : Place) : Rule π → Rule π
  | .ifMatch p body => .ifMatch p (prune .line body)
  | .between start stop body => .between start stop (prune .line body)
  | .onStatus code body otherwise => .onStatus code (prune place body) (prune place otherwise)
  | r => r

def prune (place : Place) : List (Rule π) → List (Rule π)
  | [] => []
  | r :: rs =>
      if place = .line ∧ r.isDeadOnLine then prune place rs else r.pruned place :: prune place rs

end

end

theorem isDeadOnLine_compile (r : Rule String) : r.compile.1.isDeadOnLine = r.isDeadOnLine := by
  cases r with
  | arrange how => cases how <;> rfl
  | _ => rfl

section

variable {rs : List (Rule String)}

theorem compileAll_prune
    (h : ∀ r ∈ rs, ∀ place, (r.pruned place).compile.1 = r.compile.1.pruned place)
    (place : Place) : (compileAll (prune place rs)).1 = prune place (compileAll rs).1 := by
  induction rs with
  | nil => rfl
  | cons r rs ih =>
      obtain ⟨hr, hrs⟩ := List.forall_mem_cons.1 h
      simp only [prune, compileAll, isDeadOnLine_compile]
      split
      · exact ih hrs
      · simp only [compileAll, ih hrs, hr]

theorem compile_pruned (r : Rule String) (place : Place) :
    (r.pruned place).compile.1 = r.compile.1.pruned place := by
  induction r generalizing place with
  | substitute _ _ _ | setLine _ _ | keepMatching _ | keepLines _ | keepAll | arrange _
  | idle => rfl
  | ifMatch p body ih | between start stop body ih =>
      simp only [pruned, compile, compileAll_prune ih]
  | onStatus code body otherwise ih ih' =>
      simp only [pruned, compile, compileAll_prune ih, compileAll_prune ih']

end

/-- No dead rule is left where rules run on one line. -/
theorem forall_mem_allParts_prune {π : Type} {rs : List (Rule π)} {place : Place}
    (h : ∀ r ∈ rs, (place = .line → r.isDeadOnLine = false) →
      ∀ q ∈ (r.pruned place).parts place, q.place = .line → q.rule.isDeadOnLine = false) :
    ∀ q ∈ allParts place (prune place rs), q.place = .line → q.rule.isDeadOnLine = false := by
  induction rs with
  | nil => exact fun _ hq => nomatch hq
  | cons r rs ih =>
      obtain ⟨hr, hrs⟩ := List.forall_mem_cons.1 h
      rw [prune]
      split
      · exact ih hrs
      · rename_i hlives
        rw [allParts, List.forall_mem_append]
        refine ⟨hr ?_, ih hrs⟩
        intro hplace
        exact Bool.eq_false_iff.2 fun hdead => hlives ⟨hplace, hdead⟩

theorem forall_mem_parts_pruned {π : Type} (r : Rule π) (place : Place)
    (h : place = .line → r.isDeadOnLine = false) :
    ∀ q ∈ (r.pruned place).parts place, q.place = .line → q.rule.isDeadOnLine = false := by
  induction r generalizing place with
  | substitute _ _ _ | setLine _ _ | keepMatching _ | keepLines _ | keepAll | arrange _ | idle =>
      simpa [pruned, parts] using h
  | ifMatch p body ih =>
      rw [pruned, parts, List.forall_mem_cons]
      exact ⟨fun _ => rfl, forall_mem_allParts_prune fun r hr => ih r hr .line⟩
  | between start stop body ih =>
      rw [pruned, parts, List.forall_mem_cons]
      exact ⟨h, forall_mem_allParts_prune fun r hr => ih r hr .line⟩
  | onStatus code body otherwise ih ih' =>
      rw [pruned, parts, List.forall_mem_cons, List.forall_mem_append]
      exact ⟨fun _ => rfl, forall_mem_allParts_prune fun r hr => ih r hr place,
        forall_mem_allParts_prune fun r hr => ih' r hr place⟩

/-- The documents that rules come upon where they stand. -/
def Place.Fits : Place → Document → Prop
  | .document, _ => True
  | .line, lines => lines.length ≤ 1

section

variable {status : Option String} {place : Place} {lines : Document}

theorem Place.Fits.run (h : place.Fits lines) (r : Rule Pattern) :
    place.Fits (r.run status lines) := by
  cases place with
  | document => trivial
  | line =>
      have hlength := length_run_le status r lines
      have hline : lines.length ≤ 1 := h
      change (r.run status lines).length ≤ 1
      omega

theorem run_of_isDeadOnLine {r : Rule Pattern} (hdead : r.isDeadOnLine)
    (h : lines.length ≤ 1) : r.run status lines = lines := by
  match lines, h with
  | [], _ | [_], _ =>
      cases r with
      | arrange how =>
          cases how with
          | sort => simp [run, Arrangement.apply]
          | reverse => rfl
          | join => cases hdead
      -- The first line of a document is in no section yet.
      | between _ _ _ => rfl
      | _ => cases hdead

/-- Deleting goes by rules, and each rule that stays still leaves no more lines than it may, so that
the next one can be deleted too. -/
theorem runAll_prune {rs : List (Rule Pattern)}
    (h : ∀ r ∈ rs, ∀ lines, place.Fits lines →
      (r.pruned place).run status lines = r.run status lines) (hlines : place.Fits lines) :
    runAll status (prune place rs) lines = runAll status rs lines := by
  induction rs generalizing lines with
  | nil => rfl
  | cons r rs ih =>
      obtain ⟨hr, hrs⟩ := List.forall_mem_cons.1 h
      have hnext : place.Fits (r.run status lines) := hlines.run r
      have hrest := ih hrs hnext
      rw [prune, runAll]
      split
      · rename_i hdead
        obtain ⟨rfl, hdead⟩ := hdead
        rw [← hrest, run_of_isDeadOnLine hdead hlines]
      · rw [runAll, hr lines hlines, hrest]

theorem run_pruned (r : Rule Pattern) (h : place.Fits lines) :
    (r.pruned place).run status lines = r.run status lines := by
  induction r generalizing place lines with
  | substitute _ _ _ | setLine _ _ | keepMatching _ | keepLines _ | keepAll | arrange _
  | idle => rfl
  | ifMatch p body ih | between start stop body ih =>
      have hline : ∀ line, runAll status (prune .line body) [line] = runAll status body [line] := by
        intro line
        exact runAll_prune (fun r hr _ => ih r hr) (Nat.le_refl 1)
      simp only [pruned, run, hline]
  | onStatus code body otherwise ih ih' =>
      rw [pruned, run, run]
      split
      · exact runAll_prune (fun r hr _ => ih r hr) h
      · exact runAll_prune (fun r hr _ => ih' r hr) h

end

/-- Deleting the rules that sort, reverse or mark out sections from all blocks that run on one line
at a time leaves none of them there, and changes nothing of what the rules do. -/
theorem prune_changes_nothing (rules : List (Rule String)) :
    (∀ q ∈ allParts .document (prune .document rules),
      q.place = .line → q.rule.isDeadOnLine = false) ∧
      ∀ status lines, runAll status (compileAll (prune .document rules)).1 lines =
        runAll status (compileAll rules).1 lines := by
  constructor
  · exact forall_mem_allParts_prune fun r _ => forall_mem_parts_pruned r .document
  · intro status lines
    rw [compileAll_prune fun r _ => compile_pruned r]
    exact runAll_prune (fun r _ _ => run_pruned r) trivial

/-- What runs on the whole document stays, with its own block pruned. -/
example : prune .document [.between 1 2 [.arrange .sort, .arrange .join], .arrange .sort] =
    [.between 1 2 [.arrange .join], .arrange .sort] :=
  rfl

end Linewise.Rule
