import Linewise.Rule.Run
import Mathlib.Data.List.Basic

/-!
How many lines rules leave. No rule gives more lines than it takes, but that joining makes one line
of none. So a block that runs on one line leaves that line in some form, or nothing, and only rules
that join put a line into an empty document.
-/
namespace Linewise

theorem eq_toList_head? {d : Document} (h : d.length ≤ 1) : d = d.head?.toList := by
  match d with
  | [] => rfl
  | [_] => rfl
  | _ :: _ :: _ => simp at h

/-- Extending a document by at most one line for each line is taking that line or dropping it. -/
theorem flatMap_eq_filterMap {f : String → Document} (h : ∀ line, (f line).length ≤ 1)
    (lines : Document) : lines.flatMap f = lines.filterMap fun line => (f line).head? := by
  induction lines with
  | nil => rfl
  | cons line lines ih =>
      rw [List.flatMap_cons, ih, eq_toList_head? (h line), List.filterMap_cons]
      cases (f line).head? <;> rfl

theorem length_ite_le {b : Bool} {d : Document} (h : d.length ≤ 1) (line : String) :
    (if b then d else [line]).length ≤ 1 := by
  cases b with
  | false => exact Nat.le_refl 1
  | true => exact h

theorem length_inSections_le {starts stops : String → Bool} {inner : String → Document}
    (h : ∀ line, (inner line).length ≤ 1) (inside : Bool) (lines : Document) :
    (inSections starts stops inner inside lines).length ≤ lines.length := by
  induction lines generalizing inside with
  | nil => cases inside <;> exact Nat.le_refl 0
  | cons line lines ih =>
      cases inside with
      | false => simpa [inSections] using ih _
      | true =>
          rw [inSections]
          split
          · simpa using ih false
          · have := h line
            have := ih true
            rw [List.length_append, List.length_cons]
            omega

theorem Document.length_replaceLine (n : Int) (text : String) (lines : Document) :
    (Document.replaceLine n text lines).length = lines.length := by
  rw [Document.replaceLine]
  split
  · exact List.length_set
  · rfl

theorem LineSpec.length_select_le (spec : LineSpec) (lines : Document) :
    (spec.select lines).length ≤ lines.length := by
  rw [LineSpec.select]
  split
  · exact Nat.zero_le _
  · rw [List.length_take, List.length_drop]
    omega

theorem Arrangement.length_apply_le (how : Arrangement) (lines : Document) :
    (how.apply lines).length ≤ max lines.length 1 := by
  cases how with
  | sort =>
      rw [Arrangement.apply, List.length_mergeSort]
      exact Nat.le_max_left _ _
  | reverse =>
      rw [Arrangement.apply, List.length_reverse]
      exact Nat.le_max_left _ _
  | join => exact Nat.le_max_right _ _

mutual

theorem Rule.length_run_le (status : Option String) : (r : Rule Pattern) → (lines : Document) →
    (r.run status lines).length ≤ max lines.length 1
  | .substitute _ _ _, lines => by
      rw [Rule.run, List.length_map]
      exact Nat.le_max_left _ _
  | .setLine n text, lines => by
      rw [Rule.run, Document.length_replaceLine]
      exact Nat.le_max_left _ _
  | .keepMatching p, lines => Nat.le_trans (List.length_filter_le _ _) (Nat.le_max_left _ _)
  | .keepLines spec, lines => Nat.le_trans (spec.length_select_le lines) (Nat.le_max_left _ _)
  | .keepAll, _ | .idle, _ => Nat.le_max_left _ _
  | .arrange how, lines => how.length_apply_le lines
  | .ifMatch p body, lines => by
      rw [Rule.run, flatMap_eq_filterMap fun line =>
        length_ite_le (Rule.length_runAll_le status body [line]) line]
      exact Nat.le_trans (List.length_filterMap_le _ _) (Nat.le_max_left _ _)
  | .between start stop body, lines => by
      have hline : ∀ line, (Rule.runAll status body [line]).length ≤ 1 :=
        fun line => Rule.length_runAll_le status body [line]
      exact Nat.le_trans (length_inSections_le hline false lines) (Nat.le_max_left _ _)
  | .onStatus code body otherwise, lines => by
      rw [Rule.run]
      split
      · exact Rule.length_runAll_le status body lines
      · exact Rule.length_runAll_le status otherwise lines

theorem Rule.length_runAll_le (status : Option String) : (rs : List (Rule Pattern)) →
    (lines : Document) → (Rule.runAll status rs lines).length ≤ max lines.length 1
  | [], lines => Nat.le_max_left _ _
  | r :: rs, lines => by
      have hrest := Rule.length_runAll_le status rs (r.run status lines)
      have hfirst := Rule.length_run_le status r lines
      rw [Rule.runAll]
      omega

end

mutual

/-- Whether a rule joins lines outside of all blocks that run on one line at a time. -/
def Rule.Joins {π : Type} : Rule π → Prop
  | .arrange .join => True
  | .onStatus _ body otherwise => Rule.AnyJoins body ∨ Rule.AnyJoins otherwise
  | _ => False

def Rule.AnyJoins {π : Type} : List (Rule π) → Prop
  | [] => False
  | r :: rs => r.Joins ∨ Rule.AnyJoins rs

end

mutual

theorem Rule.joins_of_compile : (r : Rule String) → r.compile.1.Joins → r.Joins
  | .arrange .join, h => h
  | .onStatus _ body otherwise, h =>
      h.imp (Rule.anyJoins_of_compileAll body) (Rule.anyJoins_of_compileAll otherwise)
  | .substitute _ _ _, h | .setLine _ _, h | .keepMatching _, h | .keepLines _, h | .keepAll, h
  | .arrange .sort, h | .arrange .reverse, h | .ifMatch _ _, h | .between _ _ _, h
  | .idle, h => h.elim

theorem Rule.anyJoins_of_compileAll : (rs : List (Rule String)) →
    Rule.AnyJoins (Rule.compileAll rs).1 → Rule.AnyJoins rs
  | [], h => h
  | r :: rs, h => h.imp r.joins_of_compile (Rule.anyJoins_of_compileAll rs)

end

mutual

theorem Rule.run_nil (status : Option String) : (r : Rule Pattern) →
    r.run status [] = [] ∨ r.Joins
  | .substitute _ _ _ | .keepMatching _ | .keepAll | .idle | .ifMatch _ _ | .between _ _ _ =>
      .inl rfl
  | .setLine n text =>
      .inl (List.eq_nil_of_length_eq_zero (Document.length_replaceLine n text []))
  | .keepLines spec =>
      .inl (List.eq_nil_of_length_eq_zero (Nat.le_zero.1 (spec.length_select_le [])))
  | .arrange .sort => .inl (by simp [Rule.run, Arrangement.apply])
  | .arrange .reverse => .inl rfl
  | .arrange .join => .inr trivial
  | .onStatus code body otherwise => by
      rw [Rule.run]
      split
      · exact (Rule.runAll_nil status body).imp_right .inl
      · exact (Rule.runAll_nil status otherwise).imp_right .inr

theorem Rule.runAll_nil (status : Option String) : (rs : List (Rule Pattern)) →
    Rule.runAll status rs [] = [] ∨ Rule.AnyJoins rs
  | [] => .inl rfl
  | r :: rs => by
      obtain h | h := Rule.run_nil status r
      · rw [Rule.runAll, h]
        exact (Rule.runAll_nil status rs).imp_right .inr
      · exact .inr (.inl h)

end

section

variable (status : Option String) (body : List (Rule Pattern))

/-- What a block leaves of a line is its only line, if there is any. -/
theorem Rule.runAll_singleton (line : String) :
    Rule.runAll status body [line] = (Rule.runAll status body [line]).head?.toList :=
  eq_toList_head? (Rule.length_runAll_le status body [line])

theorem Rule.run_ifMatch (p : Pattern) (lines : Document) :
    (Rule.ifMatch p body).run status lines =
      lines.filterMap fun line =>
        if p.matchesLine line then (Rule.runAll status body [line]).head? else some line := by
  rw [Rule.run, flatMap_eq_filterMap fun line =>
    length_ite_le (Rule.length_runAll_le status body [line]) line]
  congr 1
  funext line
  split <;> rfl

theorem Rule.run_between (start stop : Pattern) (lines : Document) :
    (Rule.between start stop body).run status lines =
      inSections start.matchesLine stop.matchesLine
        (fun line => (Rule.runAll status body [line]).head?.toList) false lines := by
  rw [Rule.run]
  congr 1
  funext line
  exact Rule.runAll_singleton status body line

end

/-- Rules never give more lines than they take, but for one line that joining makes of none. A block
leaves one line or none of each line, so whether all of its output is taken or its only line makes
no difference. -/
theorem Rule.runAll_compileAll_never_grows (rules : List (Rule String)) (status : Option String) :
    let program := (Rule.compileAll rules).1
    let output := Rule.runAll status program
    (∀ lines, (output lines).length ≤ max lines.length 1) ∧
      (∀ line lines, (output (line :: lines)).length ≤ (line :: lines).length) ∧
      (output [] = [] ∨ Rule.AnyJoins rules) ∧
      (∀ line, output [line] = (output [line]).head?.toList) ∧
      (∀ p lines, (Rule.ifMatch p program).run status lines =
        lines.filterMap fun line =>
          if p.matchesLine line then (output [line]).head? else some line) ∧
      ∀ start stop lines, (Rule.between start stop program).run status lines =
        inSections start.matchesLine stop.matchesLine
          (fun line => (output [line]).head?.toList) false lines := by
  intro program output
  have hlength : ∀ lines, (output lines).length ≤ max lines.length 1 :=
    Rule.length_runAll_le status program
  refine ⟨hlength, ?_, ?_, Rule.runAll_singleton status program,
    Rule.run_ifMatch status program, Rule.run_between status program⟩
  · intro line lines
    have := hlength (line :: lines)
    rw [List.length_cons] at this ⊢
    omega
  · exact (Rule.runAll_nil status program).imp_right (Rule.anyJoins_of_compileAll rules)

/-- Joining no lines leaves an empty one, but not in a block that has no line to run on. -/
example : Rule.runAll none [.ifMatch .never [.arrange .join]] [] = [] ∧
    Rule.runAll none [.onStatus "0" [] [.arrange .join]] [] = [""] := by
  decide

end Linewise
