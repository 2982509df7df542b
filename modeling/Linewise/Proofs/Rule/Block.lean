import Linewise.Proofs.Rule.Language
import Linewise.Rule.Run

/-!
Blocks and lists of rules. Rules that are given one by one and rules in a block are read in different
scopes and with different text after them, yet as the same rules, as long as their free text would
not end early in the block. A status rule that holds runs its block as if its rules had been given.
-/
namespace Linewise

/-- Nothing in the free text of a rule would end it in a block. In a replacement this is about what
stands outside the pairs of a backslash and its partner, and no backslash may be left without one. -/
def Rule.FitsBlock : Rule String → Prop
  | .substitute _ t _ => Paired (fun c => Scope.block.endsText c = false) (fun _ => True) t.toList
  | .setLine _ t => IsLineText .block t
  | _ => True

/-- A replacement that fits a block and can be written at top level can be written in a block. -/
theorem isReplacement_block {t : String} (h : IsReplacement .top t)
    (hf : Paired (fun c => Scope.block.endsText c = false) (fun _ => True) t.toList) :
    IsReplacement .block t := by
  obtain ht | ⟨s, hs, ht⟩ := h
  · exact (ht.and hf).mono (fun _ h => h.2) (fun _ h => h.1)
  · rw [ht] at hf
    exact absurd hf hs.not_append_backslash

theorem Rule.WellFormed.block {r : Rule String} (h : r.WellFormed .top) (hf : r.FitsBlock) :
    r.WellFormed .block := by
  cases r with
  | substitute _ _ _ => exact ⟨h.1, isReplacement_block h.2 hf⟩
  | setLine _ _ => exact ⟨h.1, hf⟩
  | idle => exact h.elim
  | keepMatching _ | keepLines _ | keepAll | arrange _ | ifMatch _ _ | between _ _ _
  | onStatus _ _ _ => exact h

/-- The text of a rule at top level is its text in a block, where it only ends in another way. -/
theorem Written.block {r : Rule String} {e : Ending} {u : List Char} (h : Written .top r e u)
    (hr : r.WellFormed .block) : ∃ e', Written .block r e' u ∧ e' ≠ .last := by
  cases h with
  | substituteClosed _ => exact ⟨_, .substituteClosed hr.2, by decide⟩
  | substituteOpen _ | substituteDangling _ => exact ⟨_, .substituteOpen hr.2, by decide⟩
  | setLine hd => exact ⟨_, .setLine hd, by decide⟩
  | keepMatching hw => exact ⟨_, .keepMatching hw, by decide⟩
  | keepIndex hw hd => exact ⟨_, .keepIndex hw hd, by decide⟩
  | keepRange hw hd hd' => exact ⟨_, .keepRange hw hd hd', by decide⟩
  | keepAll => exact ⟨_, .keepAll, by decide⟩
  | arrange how => exact ⟨_, .arrange how, by decide⟩
  | ifMatch hw hv => exact ⟨_, .ifMatch hw hv, by decide⟩
  | between hw hv => exact ⟨_, .between hw hv, by decide⟩
  | onStatus hw hv => exact ⟨_, .onStatus hw hv, by decide⟩
  | onStatusElse hw hv hw₁ hw₂ hv' => exact ⟨_, .onStatusElse hw hv hw₁ hw₂ hv', by decide⟩

/-- The text of a rule on its own, layout included, starts a block that goes on with a semicolon or
with its brace. -/
theorem WrittenBody.push_source {source : String} {r : Rule String} {rs : List (Rule String)}
    {v : List Char} (h : Rule.read source = .ok r) (hf : r.FitsBlock) (hv : WrittenBody rs v)
    (hb : ∀ e : Ending, e ≠ .last → e.Before v) :
    WrittenBody (r :: rs) (source.toList ++ v) ∧ r.WellFormed .block := by
  obtain ⟨hwf, w, u, w', e, hw, hw', hu, -, hs⟩ := Rule.of_read h
  have hr := hwf.block hf
  obtain ⟨e', hu', he'⟩ := hu.block hr
  have hnext := Ending.before_separators_append hw'.isSeparators (hb e' he') he'
  have := WrittenBody.cons hw.isSeparators hu' hnext (hv.separate hw'.isSeparators)
  refine ⟨?_, hr⟩
  rw [hs]
  simpa using this

/-- What reading each text alone gives is what their block is written from. -/
theorem exists_writtenBody_of_sources {sources : List String} (number : Nat)
    (h : ∀ source ∈ sources, ∃ r, Rule.read source = .ok r ∧ r.FitsBlock) :
    ∃ rs, Rule.readAll number sources = (rs, []) ∧ Rule.AllWellFormed rs ∧
      WrittenBody rs ((String.intercalate ";" sources).toList ++ ['}']) := by
  induction sources generalizing number with
  | nil => exact ⟨[], rfl, trivial, .nil (w := []) isSeparators_nil⟩
  | cons source sources ih =>
      obtain ⟨r, hread, hf⟩ := h source List.mem_cons_self
      obtain ⟨rs, hrs, hwf, hv⟩ := ih (number + 1) fun s hs => h s (List.mem_cons_of_mem _ hs)
      have hall : Rule.readAll number (source :: sources) = (r :: rs, []) := by
        rw [Rule.readAll, hrs]
        simp only [hread]
      cases sources with
      | nil =>
          cases hrs
          obtain ⟨hbody, hr⟩ := hv.push_source hread hf fun _ => Ending.before_brace
          exact ⟨[r], hall, ⟨hr, trivial⟩, by simpa using hbody⟩
      | cons source' sources =>
          obtain ⟨hbody, hr⟩ := (hv.separate (w := [';']) (by decide)).push_source hread hf
            fun _ he => Ending.before_semicolon he _
          refine ⟨r :: rs, hall, ⟨hr, hwf⟩, ?_⟩
          rw [String.intercalate_cons_cons]
          simpa using hbody

theorem Status.holds_self (code : String) : Status.holds (some code) code = true := by
  simp [Status.holds, Status.same]

/-- A block means the same as the list of its rules. -/
theorem execute_block {code : String} {sources : List String} (hc : IsStatusCode code)
    (h : ∀ source ∈ sources, ∃ r, Rule.read source = .ok r ∧ r.FitsBlock) (lines : Document) :
    execute ["status:" ++ code ++ " \x7b" ++ String.intercalate ";" sources ++ "\x7d"]
        (some code) lines =
      execute sources (some code) lines := by
  obtain ⟨rs, hrs, hwf, hv⟩ := exists_writtenBody_of_sources 1 h
  have hblock : Rule.read ("status:" ++ code ++ " \x7b" ++ String.intercalate ";" sources ++
      "\x7d") = .ok (.onStatus code rs []) := by
    refine Rule.read_of_writtenAs ⟨hc, hwf, trivial⟩ ⟨[], _, [], .closed, isLayout_nil,
      isLayout_nil, .onStatus (w := [' ']) (by decide) hv, trivial, ?_⟩
    simp
  simp only [execute, hrs, Rule.readAll, hblock, Rule.compileAll, Rule.compile, Rule.runAll,
    Rule.run, Status.holds_self]
  simp

theorem execute_block_two_rules :
    execute ["status:" ++ "0" ++ " \x7b" ++ String.intercalate ";" ["s/a/\\;", " print"] ++ "\x7d"]
        (some "0") ["a", "b"] =
      execute ["s/a/\\;", " print"] (some "0") ["a", "b"] := by
  have h₁ : Rule.read "s/a/\\;" = .ok (.substitute "a" "\\;" false) :=
    Rule.read_of_rule (Reader.rule_substitute .top false "a/\\;".toList) isLayout_nil
  have h₂ : Rule.read " print" = .ok .keepAll :=
    Rule.read_of_rule (Reader.rule_printAll .top (by simp [Reader.Selects])
      (by simp [Reader.EndsWord])) isLayout_nil
  refine execute_block (by decide) (fun source hs => ?_) ["a", "b"]
  obtain rfl | hs := List.mem_cons.1 hs
  · exact ⟨_, h₁, .pair trivial .nil⟩
  · rw [List.mem_singleton.1 hs]
    exact ⟨_, h₂, trivial⟩

end Linewise
