import Linewise.Proofs.Document.Reload

/-!
Output that becomes input. A job prints every line with a line feed after it, so its output tells an
empty line at the end from none. It is read again as the lines that were printed, as long as none of
them has a line feed of its own or ends in a carriage return.
-/
namespace Linewise

namespace Document

/-- What is printed line by line can be told apart line by line. -/
def Pipes (d : Document) : Prop :=
  ∀ line ∈ d, '\n' ∉ line.toList ∧ line.toList.getLast? ≠ some '\r'

instance (d : Document) : Decidable d.Pipes :=
  inferInstanceAs (Decidable (∀ line ∈ d, '\n' ∉ line.toList ∧ line.toList.getLast? ≠ some '\r'))

theorem splitLines_flatMap {ls : List (List Char)} (h : ∀ l ∈ ls, '\n' ∉ l) :
    splitLines (ls.flatMap fun l => l ++ ['\n']) = ls.map fun l => endedLine l.reverse := by
  induction ls with
  | nil => rfl
  | cons l ls ih =>
      obtain ⟨hl, hls⟩ := List.forall_mem_cons.1 h
      have hrest := ih hls
      rw [splitLines] at hrest ⊢
      rw [List.flatMap_cons, List.append_assoc, List.singleton_append, linesFrom_append hl,
        List.append_nil, hrest, List.map_cons]

variable {d : Document}

theorem ofText_join (h : d.Unbroken) :
    ofText (String.join (d.map fun line => line ++ "\n")) =
      d.map fun line => String.ofList (endedLine line.toList.reverse) := by
  have htext : (String.join (d.map fun line => line ++ "\n")).toList =
      (d.map String.toList).flatMap fun l => l ++ ['\n'] := by
    simp [String.toList_join, List.flatMap_map]
  rw [ofText, htext, splitLines_flatMap h.map_toList]
  simp

theorem ofList_endedLine_eq_iff (line : String) :
    String.ofList (endedLine line.toList.reverse) = line ↔ line.toList.getLast? ≠ some '\r' := by
  rw [← endedLine_reverse_eq_iff, ← String.toList_inj, String.toList_ofList]

/-- A document comes back from what is printed of it just if its lines can be told apart. -/
theorem ofText_join_eq_iff (d : Document) :
    ofText (String.join (d.map fun line => line ++ "\n")) = d ↔ d.Pipes := by
  constructor
  · intro hd
    have hunbroken : d.Unbroken := hd ▸ unbroken_ofText _
    rw [ofText_join hunbroken] at hd
    intro line hline
    have hself := List.map_inj_left.1 (hd.trans (List.map_id d).symm) line hline
    exact ⟨hunbroken line hline, (ofList_endedLine_eq_iff line).1 hself⟩
  · intro h
    have hunbroken : d.Unbroken := fun line hline => (h line hline).1
    rw [ofText_join hunbroken]
    refine (List.map_congr_left fun line hline => ?_).trans (List.map_id d)
    exact (ofList_endedLine_eq_iff line).2 (h line hline).2

end Document

namespace Job

/-- Prints lines as they are. -/
structure Plain (job : Job) : Prop where
  json : job.json = false
  colored : job.colored = false
  target : job.target = none

/-- The lines that a job leaves of its input. -/
def lines (job : Job) : Document := (execute job.rules job.status job.input).1

theorem finish_written (job : Job) :
    job.finish.written = job.target.map fun path => (path, job.lines.toText) := by
  rw [finish]
  cases job.target <;> rfl

theorem finish_output (job : Job) :
    job.finish.output =
      if job.target.isSome then "" else job.printed (Rule.readAll 1 job.rules).1 job.lines := by
  rw [finish]
  cases job.target <;> rfl

theorem Plain.output {job : Job} (h : job.Plain) :
    job.finish.output = String.join (job.lines.map fun line => line ++ "\n") := by
  rw [finish_output, h.target]
  simp [printed, h.json, h.colored]

/-- The rules themselves show in the output only where they are painted. -/
theorem printed_eq_of_unpainted (job : Job) (h : job.json = true ∨ job.colored = false)
    (rules rules' : List (Rule String)) (d : Document) :
    job.printed rules d = job.printed rules' d := by
  rw [printed, printed]
  obtain h | h := h
  · rw [if_pos h, if_pos h]
  · simp [h]

/-- A job on what another one leaves does what one job with the rules of both would do. -/
theorem lines_append (first second : Job) (hinput : second.input = first.lines)
    (hstatus : second.status = first.status) :
    { second with rules := first.rules ++ second.rules, input := first.input }.lines =
      second.lines := by
  simp only [lines, execute_append_fst, hinput, hstatus]

end Job

/-- The plain output of a job is read as the lines of its result just if these can be told apart.
Then a second job on it does what a single job does with the rules of both, but for painting what
rules match. -/
theorem Job.piping_composes {first : Job} (hplain : first.Plain) :
    let piped := Contents.document (.ok first.finish.output.toUTF8)
    (piped = .ok first.lines ↔ first.lines.Pipes) ∧
      (first.lines.Pipes → ∀ second : Job, piped = .ok second.input →
        second.status = first.status →
          let whole := { second with rules := first.rules ++ second.rules, input := first.input }
          whole.lines = second.lines ∧ whole.finish.written = second.finish.written ∧
            (second.json = true ∨ second.colored = false →
              whole.finish.output = second.finish.output)) := by
  intro piped
  have hpiped : piped = .ok first.lines ↔ first.lines.Pipes := by
    have hread : piped = .ok (Document.ofText first.finish.output) := Contents.document_toUTF8 _
    rw [hread, Except.ok.injEq, hplain.output, Document.ofText_join_eq_iff]
  refine ⟨hpiped, ?_⟩
  intro hpipes second hinput hstatus whole
  have hsecond : second.input = first.lines := by
    rw [hpiped.2 hpipes] at hinput
    exact (Except.ok.inj hinput).symm
  have hlines : whole.lines = second.lines := Job.lines_append first second hsecond hstatus
  refine ⟨hlines, ?_, ?_⟩
  · rw [Job.finish_written, Job.finish_written, hlines]
  · intro hunpainted
    have hprinted : whole.printed (Rule.readAll 1 whole.rules).1 second.lines =
        second.printed (Rule.readAll 1 second.rules).1 second.lines :=
      second.printed_eq_of_unpainted hunpainted _ _ second.lines
    rw [Job.finish_output, Job.finish_output, hlines, hprinted]

theorem Job.piping_composes_empty_line :
    let first : Job := ⟨["reverse"], none, ["", "a"], false, false, none, false, ""⟩
    let second : Job := ⟨["join"], none, ["a", ""], false, false, none, false, ""⟩
    let whole : Job := ⟨["reverse", "join"], none, ["", "a"], false, false, none, false, ""⟩
    first.Plain ∧ first.lines.Pipes ∧ first.finish.output = "a\n\n" ∧
      Contents.document (.ok first.finish.output.toUTF8) = .ok ["a", ""] ∧
      whole.finish.output = second.finish.output ∧ second.finish.output = "a \n" := by
  intro first second whole
  have hreverse : Rule.read "reverse" = .ok (.arrange .reverse) :=
    Rule.read_of_rule (Reader.rule_arrange .top .reverse (s := []) (by simp [Reader.EndsWord]))
      isLayout_nil
  have hjoin : Rule.read "join" = .ok (.arrange .join) :=
    Rule.read_of_rule (Reader.rule_arrange .top .join (s := []) (by simp [Reader.EndsWord]))
      isLayout_nil
  have hfirst : first.lines = ["a", ""] := by
    rw [Job.lines, execute_fst, List.map_singleton, Rule.readOrIdle, hreverse]
    rfl
  have hsecond : second.lines = ["a "] := by
    rw [Job.lines, execute_fst, List.map_singleton, Rule.readOrIdle, hjoin]
    rfl
  have hplain : first.Plain := ⟨rfl, rfl, rfl⟩
  have hplain' : second.Plain := ⟨rfl, rfl, rfl⟩
  have hpipes : first.lines.Pipes := by
    rw [hfirst]
    decide
  obtain ⟨hiff, hpipe⟩ := Job.piping_composes hplain
  have hpiped := hiff.2 hpipes
  rw [hfirst] at hpiped
  refine ⟨hplain, hpipes, ?_, hpiped, (hpipe hpipes second hpiped rfl).2.2 (.inr rfl), ?_⟩
  · rw [hplain.output, hfirst]
    rfl
  · rw [hplain'.output, hsecond]
    rfl

end Linewise
