import Linewise.Invocation
import Linewise.Proofs.Rule.Faults

/-!
What is shown while a rule is edited, and what becomes of it when it is committed. The two go
different ways: the preview reads the edited rule alone and refuses to show anything if it is none,
and a job reads all texts and passes over those that are none. They also call different texts blank.
Still they agree on every text.
-/
namespace Linewise

theorem trimWhite_eq_nil_iff (source : String) :
    trimWhite source = [] ↔ ∀ c ∈ source.toList, isWhite c = true := by
  rw [trimWhite, List.reverse_eq_nil_iff, List.dropWhile_eq_nil_iff]
  constructor
  · intro h c hc
    by_contra hwhite
    -- What is left without the white space in front starts with a character that is none.
    have hleft : source.toList.dropWhile isWhite ≠ [] := by
      intro hnil
      exact hwhite (List.dropWhile_eq_nil_iff.1 hnil c hc)
    obtain ⟨d, s, hs⟩ := List.exists_cons_of_ne_nil hleft
    have hd := head?_dropWhile isWhite source.toList
    rw [hs] at h hd
    have hwhite' := h d (List.mem_reverse.2 List.mem_cons_self)
    rw [hd d rfl] at hwhite'
    cases hwhite'
  · intro h c hc
    exact h c ((List.dropWhile_sublist _).subset (List.mem_reverse.1 hc))

/-- No rule has a text of white space only, whatever counts as layout between its parts. -/
theorem Rule.readOrIdle_of_blank {source : String} (h : trimWhite source = []) :
    Rule.readOrIdle source = .idle := by
  rw [Rule.readOrIdle]
  cases hread : Rule.read source with
  | error _ => rfl
  | ok r =>
      obtain ⟨-, w, u, w', e, -, -, hu, -, hs⟩ := Rule.of_read hread
      obtain ⟨c, hc, hhead⟩ := hu.head
      have hmem : c ∈ source.toList := by
        rw [hs]
        exact List.mem_append_right w (List.mem_append_left w' (List.mem_of_head? hhead))
      have hwhite := (trimWhite_eq_nil_iff source).1 h c hmem
      have hseparator := (Reader.writtenBody_letter (.inr hc)).1
      rw [isSeparator, hwhite] at hseparator
      cases hseparator

theorem execute_concat_fst (sources : List String) (source : String) (status : Option String)
    (lines : Document) :
    (execute (sources ++ [source]) status lines).1 =
      Rule.runAll status (Rule.compileAll [Rule.readOrIdle source]).1
        (execute sources status lines).1 := by
  rw [execute_append_fst, execute_fst [source], List.map_singleton]

/-- The number of one more text is that of the texts before it, and one. -/
theorem report_mem_execute_concat (sources : List String) {source : String} {e : ReadError}
    (h : Rule.read source = .error e) (status : Option String) (lines : Document) :
    ⟨"rule " ++ toString (sources.length + 1) ++ ": " ++ e.message source,
        some (sources.length + 1), some (e.offset source)⟩ ∈
      (execute (sources ++ [source]) status lines).2.map Warning.report := by
  rw [execute_reports]
  refine List.mem_append_left _ (List.mem_filterMap.2 ⟨(source, sources.length + 1), ?_, ?_⟩)
  · rw [List.zipIdx_append, Nat.add_comm]
    exact List.mem_append_right _ List.mem_cons_self
  · simp [Report.ofSource?, h]

namespace Prompt.Trial

variable {sources : List String} {status : Option String} {input : Document} {text : List Char}

/-- The preview runs what is edited on what the rules before it leave. -/
theorem preview_ofSources :
    (ofSources sources status input).preview text =
      if trimWhite (String.ofList text) = [] then .ok (execute sources status input).1
      else (Rule.read (String.ofList text)).map fun r =>
        Rule.runAll status (Rule.compileAll [r]).1 (execute sources status input).1 := by
  have hshown : ∀ edited, Rule.runAll status
      (Rule.compileAll ((Rule.readAll 1 sources).1 ++ edited)).1 input =
      Rule.runAll status (Rule.compileAll edited).1 (execute sources status input).1 := by
    intro edited
    rw [execute_fst, Rule.readAll_fst, Rule.runAll_compileAll_append]
  rw [preview]
  split
  · exact congrArg Except.ok (hshown [])
  · cases Rule.read (String.ofList text) with
    | error e => rfl
    | ok r => exact congrArg Except.ok (hshown [r])

end Prompt.Trial

/-- Committing a rule leaves the lines that its preview shows. Where the preview shows an error, the
lines are those of the rules given beforehand and the same error is reported. A blank text, which
the preview leaves out, is no rule when committed. -/
theorem Job.preview_agrees_with_commit (job : Job) (window : Prompt.Window) (text : List Char) :
    let source := String.ofList text
    let committed := { job with rules := job.rules ++ [source] }
    let output := execute committed.rules committed.status committed.input
    let preview := (job.session window).trial.preview text
    job.afterSession (.committed text) = committed.finish ∧
      (match preview with
      | .ok d => output.1 = d
      | .error e =>
          output.1 = (execute job.rules job.status job.input).1 ∧
            ⟨"rule " ++ toString (job.rules.length + 1) ++ ": " ++ e.message source,
              some (job.rules.length + 1), some (e.offset source)⟩ ∈
                output.2.map Warning.report) ∧
      (trimWhite source = [] →
        preview = .ok (execute job.rules job.status job.input).1 ∧
          Rule.readOrIdle source = .idle) := by
  intro source committed output preview
  have houtput : output.1 = Rule.runAll job.status (Rule.compileAll [Rule.readOrIdle source]).1
      (execute job.rules job.status job.input).1 :=
    execute_concat_fst job.rules source job.status job.input
  have hpreview : preview = if trimWhite source = [] then
      .ok (execute job.rules job.status job.input).1
      else (Rule.read source).map fun r => Rule.runAll job.status (Rule.compileAll [r]).1
        (execute job.rules job.status job.input).1 :=
    Prompt.Trial.preview_ofSources
  refine ⟨rfl, ?_, ?_⟩
  · rw [hpreview, houtput]
    by_cases hblank : trimWhite source = []
    · rw [if_pos hblank, Rule.readOrIdle_of_blank hblank]
      rfl
    · rw [if_neg hblank, Rule.readOrIdle]
      cases hread : Rule.read source with
      | ok r => rfl
      | error e => exact ⟨rfl, report_mem_execute_concat job.rules hread job.status job.input⟩
  · intro hblank
    exact ⟨by rw [hpreview, if_pos hblank], Rule.readOrIdle_of_blank hblank⟩

theorem Job.preview_no_break_space :
    let job : Job := ⟨["sort", "s//x"], none, ["b", "a"], false, false, none, true, ""⟩
    trimWhite "\u00a0" = [] ∧
      (job.session ⟨80, 24, 0⟩).trial.preview ['\u00a0'] =
          .ok (execute ["sort", "s//x"] none ["b", "a"]).1 ∧
        Rule.readOrIdle "\u00a0" = .idle := by
  intro job
  have hblank : trimWhite "\u00a0" = [] := by decide
  exact ⟨hblank, (Job.preview_agrees_with_commit job ⟨80, 24, 0⟩ ['\u00a0']).2.2 hblank⟩

end Linewise
