import Linewise.Proofs.Rule.Parts
import Mathlib.Data.List.Perm.Subperm

/-!
Rules that select. Rules that neither replace text nor join lines leave some of the lines they are
given, each as it is, and no line more often than it was there. Only sorting and reversing change
the order, and not in a block that runs on one line at a time, where at most one line is left to
rearrange.
-/
namespace Linewise

/-- Whether a rule writes no line of its own. -/
def Rule.isSelection {π : Type} : Rule π → Bool
  | .keepMatching _ | .keepLines _ | .keepAll | .idle => true
  | .arrange .sort | .arrange .reverse => true
  | .ifMatch _ _ | .between _ _ _ | .onStatus _ _ _ => true
  | .substitute _ _ _ | .setLine _ _ | .arrange .join => false

def Rule.reorders {π : Type} : Rule π → Bool
  | .arrange .sort | .arrange .reverse => true
  | _ => false

theorem Rule.isSelection_compile (r : Rule String) : r.compile.1.isSelection = r.isSelection := by
  cases r with
  | arrange how => cases how <;> rfl
  | _ => rfl

theorem Rule.reorders_compile (r : Rule String) : r.compile.1.reorders = r.reorders := by
  cases r with
  | arrange how => cases how <;> rfl
  | _ => rfl

theorem LineSpec.select_sublist (spec : LineSpec) (lines : Document) :
    (spec.select lines).Sublist lines := by
  rw [LineSpec.select]
  split
  · exact List.nil_sublist lines
  · exact (List.take_sublist _ _).trans (List.drop_sublist _ _)

theorem Arrangement.apply_subperm {how : Arrangement}
    (h : (Rule.arrange how : Rule Pattern).isSelection) (lines : Document) :
    (how.apply lines).Subperm lines := by
  cases how with
  | sort => exact (List.mergeSort_perm lines _).subperm
  | reverse => exact (List.reverse_perm lines).subperm
  | join => cases h

section

variable {inner : String → Document} (h : ∀ line, (inner line).Subperm [line])
include h

theorem sublist_singleton_of_subperm (line : String) : (inner line).Sublist [line] :=
  List.sublist_singleton.2 (List.subperm_singleton_iff.1 (h line))

theorem flatMap_ite_sublist (p : String → Bool) (lines : Document) :
    (lines.flatMap fun line => if p line then inner line else [line]).Sublist lines := by
  induction lines with
  | nil => exact .slnil
  | cons line lines ih =>
      have hline : (if p line then inner line else [line]).Sublist [line] := by
        split
        · exact sublist_singleton_of_subperm h line
        · exact .refl [line]
      exact hline.append ih

theorem inSections_sublist (starts stops : String → Bool) (inside : Bool) (lines : Document) :
    (inSections starts stops inner inside lines).Sublist lines := by
  induction lines generalizing inside with
  | nil => cases inside <;> exact .slnil
  | cons line lines ih =>
      cases inside with
      | false => exact (ih (starts line)).cons_cons line
      | true =>
          rw [inSections]
          split
          · exact (ih false).cons_cons line
          · exact (sublist_singleton_of_subperm h line).append (ih true)

end

namespace Rule

variable (status : Option String) {rs : List (Rule Pattern)}

theorem runAll_subperm (h : ∀ r ∈ rs, ∀ lines, (r.run status lines).Subperm lines)
    (lines : Document) : (runAll status rs lines).Subperm lines :=
  runAll_of_run .refl .trans h lines

theorem run_subperm {r : Rule Pattern} {place : Place}
    (h : ∀ q ∈ r.parts place, q.rule.isSelection) (lines : Document) :
    (r.run status lines).Subperm lines := by
  -- The place makes no difference, but the rules of a block may have another one than their rule.
  induction r generalizing place lines with
  | substitute _ _ _ | setLine _ _ => cases h _ (mem_parts place _)
  | keepMatching p => exact List.filter_sublist.subperm
  | keepLines spec => exact (spec.select_sublist lines).subperm
  | keepAll | idle => exact .refl lines
  | arrange how => exact Arrangement.apply_subperm (h _ (mem_parts place _)) lines
  | ifMatch p body ih =>
      obtain ⟨-, hrules⟩ := forall_mem_parts_ifMatch.1 h
      have hbody := runAll_subperm status fun r hr => ih r hr (hrules r hr)
      exact (flatMap_ite_sublist (fun line => hbody [line]) p.matchesLine lines).subperm
  | between start stop body ih =>
      obtain ⟨-, hrules⟩ := forall_mem_parts_between.1 h
      have hbody := runAll_subperm status fun r hr => ih r hr (hrules r hr)
      exact (inSections_sublist (fun line => hbody [line]) start.matchesLine stop.matchesLine
        false lines).subperm
  | onStatus code body otherwise ih ih' =>
      obtain ⟨-, hbody, hotherwise⟩ := forall_mem_parts_onStatus.1 h
      rw [run]
      split
      · exact runAll_subperm status (fun r hr => ih r hr (hbody r hr)) lines
      · exact runAll_subperm status (fun r hr => ih' r hr (hotherwise r hr)) lines

theorem runAll_sublist (h : ∀ r ∈ rs, ∀ lines, (r.run status lines).Sublist lines)
    (lines : Document) : (runAll status rs lines).Sublist lines :=
  runAll_of_run .refl .trans h lines

/-- A block that runs on one line at a time keeps the order of the lines, whatever it does to the
order of its own. -/
theorem run_sublist {r : Rule Pattern} (h : ∀ q ∈ r.parts .document, q.rule.isSelection)
    (ho : ∀ q ∈ r.parts .document, q.place = .document → q.rule.reorders = false)
    (lines : Document) : (r.run status lines).Sublist lines := by
  induction r generalizing lines with
  | substitute _ _ _ | setLine _ _ => cases h _ (mem_parts .document _)
  | keepMatching p => exact List.filter_sublist
  | keepLines spec => exact spec.select_sublist lines
  | keepAll | idle => exact .refl lines
  | arrange how =>
      cases how with
      | sort | reverse => cases ho _ (mem_parts .document _) rfl
      | join => cases h _ (mem_parts .document _)
  -- The rules of these two blocks may reorder, so the induction hypothesis does not apply to them.
  | ifMatch p body _ =>
      obtain ⟨-, hrules⟩ := forall_mem_parts_ifMatch.1 h
      have hbody := runAll_subperm status fun r hr => run_subperm status (hrules r hr)
      exact flatMap_ite_sublist (fun line => hbody [line]) p.matchesLine lines
  | between start stop body _ =>
      obtain ⟨-, hrules⟩ := forall_mem_parts_between.1 h
      have hbody := runAll_subperm status fun r hr => run_subperm status (hrules r hr)
      exact inSections_sublist (fun line => hbody [line]) start.matchesLine stop.matchesLine
        false lines
  | onStatus code body otherwise ih ih' =>
      obtain ⟨-, hbody, hotherwise⟩ := forall_mem_parts_onStatus.1 h
      obtain ⟨-, hobody, hootherwise⟩ := forall_mem_parts_onStatus.1 ho
      rw [run]
      split
      · exact runAll_sublist status (fun r hr => ih r hr (hbody r hr) (hobody r hr)) lines
      · exact runAll_sublist status
          (fun r hr => ih' r hr (hotherwise r hr) (hootherwise r hr)) lines

end Rule

/-- The output of rules that select is a rearrangement of some of the lines, and of no line more
copies than there were. It has the order of the input if no rule that reorders runs on the whole
document. -/
theorem Rule.runAll_selection {rules : List (Rule String)}
    (h : ∀ q ∈ Rule.allParts .document rules, q.rule.isSelection) (status : Option String)
    (lines : Document) :
    let output := Rule.runAll status (Rule.compileAll rules).1 lines
    (∀ line, output.count line ≤ lines.count line) ∧
      (∃ kept : Document, kept.Perm output ∧ kept.Sublist lines) ∧
      ((∀ q ∈ Rule.allParts .document rules, q.place = .document → q.rule.reorders = false) →
        output.Sublist lines) := by
  intro output
  have hselects : ∀ q ∈ Rule.allParts .document (Rule.compileAll rules).1,
      q.rule.isSelection := by
    rw [Rule.forall_mem_allParts_compileAll]
    simpa only [Rule.isSelection_compile] using h
  rw [Rule.forall_mem_allParts] at hselects
  have hsubperm : output.Subperm lines :=
    Rule.runAll_subperm status (fun r hr => Rule.run_subperm status (hselects r hr)) lines
  refine ⟨hsubperm.count_le, hsubperm, ?_⟩
  intro hkeeps
  have horder : ∀ q ∈ Rule.allParts .document (Rule.compileAll rules).1,
      q.place = .document → q.rule.reorders = false := by
    rw [Rule.forall_mem_allParts_compileAll]
    simpa only [Rule.reorders_compile] using hkeeps
  rw [Rule.forall_mem_allParts] at horder
  exact Rule.runAll_sublist status
    (fun r hr => Rule.run_sublist status (hselects r hr) (horder r hr)) lines

theorem Rule.runAll_selection_between :
    let rules : List (Rule String) :=
      [.between "b" "e" [.arrange .reverse, .keepLines (.index 2)],
        .onStatus "0" [.keepLines (.range 2 3)] [.idle]]
    let lines : Document := ["a", "b", "x", "e", "x"]
    let output := Rule.runAll (some "0") (Rule.compileAll rules).1 lines
    (∀ q ∈ Rule.allParts .document rules, q.rule.isSelection) ∧
      (∀ q ∈ Rule.allParts .document rules, q.place = .document → q.rule.reorders = false) ∧
      (∀ line, output.count line ≤ lines.count line) ∧
      (∃ kept : Document, kept.Perm output ∧ kept.Sublist lines) ∧ output.Sublist lines := by
  intro rules lines output
  have hselects : ∀ q ∈ Rule.allParts .document rules, q.rule.isSelection := by decide
  have horder : ∀ q ∈ Rule.allParts .document rules,
      q.place = .document → q.rule.reorders = false := by decide
  obtain ⟨hcount, hkept, hsublist⟩ := Rule.runAll_selection hselects (some "0") lines
  exact ⟨hselects, horder, hcount, hkept, hsublist horder⟩

end Linewise
