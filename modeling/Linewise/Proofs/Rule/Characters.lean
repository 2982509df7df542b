import Linewise.Proofs.Document.Piping
import Linewise.Proofs.Paint
import Linewise.Proofs.Pattern.Replacement
import Linewise.Proofs.Rule.Selection
import Mathlib.Data.Set.Basic

/-!
Characters that rules leave. A rule writes what its replacement or its text says, what a pattern has
captured, and a blank between lines that it joins. So a set of characters that holds the blank, the
document and the texts of all rules holds what they leave as well. Without a line feed among them
every line is printed on one line.
-/
namespace Linewise

/-- Every character of every line belongs to a set. -/
def Document.Within (C : Set Char) (d : Document) : Prop :=
  ∀ line ∈ d, ∀ c ∈ line.toList, c ∈ C

/-- What a rule itself says of the lines it leaves: a replacement, or the text of a line. -/
def Rule.ownText {π : Type} : Rule π → String
  | .substitute _ replacement _ => replacement
  | .setLine _ text => text
  | _ => ""

theorem Rule.ownText_compile (r : Rule String) : r.compile.1.ownText = r.ownText := by
  cases r <;> rfl

namespace Document.Within

variable {C : Set Char} {d d' : Document}

theorem of_subset (h : d.Within C) (hd : d' ⊆ d) : d'.Within C :=
  fun line hline => h line (hd hline)

theorem singleton (h : d.Within C) {line : String} (hline : line ∈ d) :
    Document.Within C [line] := by
  intro line' hline'
  rw [List.mem_singleton.1 hline']
  exact h line hline

theorem intercalate (hspace : ' ' ∈ C) (h : d.Within C) :
    Document.Within C [String.intercalate " " d] := by
  have hchars : ∀ c ∈ " ".toList.intercalate (d.map String.toList), c ∈ C := by
    induction d with
    | nil => exact fun c hc => nomatch hc
    | cons first rest ih =>
        obtain ⟨hfirst, hrest⟩ := List.forall_mem_cons.1 h
        cases rest with
        | nil => simpa using hfirst
        | cons second others =>
            rw [List.map_cons, List.map_cons, List.intercalate_cons_cons, List.forall_mem_append,
              List.forall_mem_append]
            refine ⟨⟨hfirst, ?_⟩, ih hrest⟩
            intro c hc
            rw [List.mem_singleton.1 hc]
            exact hspace
  intro line hline
  rw [List.mem_singleton.1 hline, String.toList_intercalate]
  exact hchars

theorem replaceLine (h : d.Within C) {text : String} (htext : ∀ c ∈ text.toList, c ∈ C) (n : Int) :
    (Document.replaceLine n text d).Within C := by
  rw [Document.replaceLine]
  split
  · intro line hline
    obtain hline | rfl := List.mem_or_eq_of_mem_set hline
    · exact h line hline
    · exact htext
  · exact h

theorem substitute (h : d.Within C) {replacement : String}
    (htext : ∀ c ∈ replacement.toList, c ∈ C) (p : Pattern) (everywhere : Bool) :
    Document.Within C (d.map fun line => p.replace line replacement everywhere) := by
  intro line' hline' c hc
  obtain ⟨line, hline, rfl⟩ := List.mem_map.1 hline'
  obtain hc | hc := Pattern.mem_replace hc
  · exact h line hline c hc
  · exact htext c hc

section

variable {inner : String → Document} (hinner : ∀ line ∈ d, (inner line).Within C)
include hinner

theorem flatMap_ite (h : d.Within C) (p : String → Bool) :
    Document.Within C (d.flatMap fun line => if p line then inner line else [line]) := by
  intro line hline
  obtain ⟨line', hline', hmem⟩ := List.mem_flatMap.1 hline
  split at hmem
  · exact hinner line' hline' line hmem
  · exact h.singleton hline' line hmem

theorem inSections (h : d.Within C) (starts stops : String → Bool) (inside : Bool) :
    (Linewise.inSections starts stops inner inside d).Within C := by
  induction d generalizing inside with
  | nil => cases inside <;> exact h
  | cons line lines ih =>
      obtain ⟨hline, hlines⟩ := List.forall_mem_cons.1 h
      obtain ⟨hinner, hinners⟩ := List.forall_mem_cons.1 hinner
      cases inside with
      | false => exact List.forall_mem_cons.2 ⟨hline, ih hinners hlines (starts line)⟩
      | true =>
          rw [Linewise.inSections]
          split
          · exact List.forall_mem_cons.2 ⟨hline, ih hinners hlines false⟩
          · exact List.forall_mem_append.2 ⟨hinner, ih hinners hlines true⟩

end

end Document.Within

theorem Arrangement.within_apply {C : Set Char} (hspace : ' ' ∈ C) (how : Arrangement)
    {lines : Document} (h : lines.Within C) : (how.apply lines).Within C := by
  cases how with
  | sort => exact h.of_subset (List.mergeSort_perm lines _).subset
  | reverse => exact h.of_subset (List.reverse_perm lines).subset
  | join => exact h.intercalate hspace

namespace Rule

variable {C : Set Char} (hspace : ' ' ∈ C) (status : Option String)

theorem within_runAll {rs : List (Rule Pattern)}
    (h : ∀ r ∈ rs, ∀ lines : Document, lines.Within C → (r.run status lines).Within C)
    (lines : Document) : lines.Within C → (runAll status rs lines).Within C :=
  runAll_of_run (R := fun d' d : Document => d.Within C → d'.Within C) (fun _ => id)
    (fun hbc hab h => hbc (hab h)) h lines

include hspace

theorem within_run {r : Rule Pattern} {place : Place}
    (h : ∀ q ∈ r.parts place, ∀ c ∈ q.rule.ownText.toList, c ∈ C) {lines : Document}
    (hlines : lines.Within C) : (r.run status lines).Within C := by
  induction r generalizing place lines with
  | substitute p replacement everywhere =>
      exact hlines.substitute (h _ (mem_parts place _)) p everywhere
  | setLine n text => exact hlines.replaceLine (h _ (mem_parts place _)) n
  | keepMatching p => exact hlines.of_subset List.filter_sublist.subset
  | keepLines spec => exact hlines.of_subset (spec.select_sublist lines).subset
  | keepAll | idle => exact hlines
  | arrange how => exact how.within_apply hspace hlines
  | ifMatch p body ih =>
      obtain ⟨-, hrules⟩ := forall_mem_parts_ifMatch.1 h
      have hbody := within_runAll status fun r hr lines => ih r hr (hrules r hr)
      exact hlines.flatMap_ite (fun line hline => hbody _ (hlines.singleton hline)) p.matchesLine
  | between start stop body ih =>
      obtain ⟨-, hrules⟩ := forall_mem_parts_between.1 h
      have hbody := within_runAll status fun r hr lines => ih r hr (hrules r hr)
      exact hlines.inSections (fun line hline => hbody _ (hlines.singleton hline))
        start.matchesLine stop.matchesLine false
  | onStatus code body otherwise ih ih' =>
      obtain ⟨-, hbody, hotherwise⟩ := forall_mem_parts_onStatus.1 h
      rw [run]
      split
      · exact within_runAll status (fun r hr lines => ih r hr (hbody r hr)) lines hlines
      · exact within_runAll status (fun r hr lines => ih' r hr (hotherwise r hr)) lines hlines

end Rule

namespace Highlighter

variable {c : Char}

theorem mem_of_mem_pieces {h : Highlighter} {line : String} {piece : Piece}
    (hpiece : piece ∈ h.pieces line) (hc : c ∈ piece.chars) : c ∈ line.toList := by
  rw [← h.flatMap_chars_pieces line]
  exact List.mem_flatMap.2 ⟨piece, hpiece, hc⟩

/-- Painting adds nothing but the marks of color. -/
theorem mem_of_mem_paint {h : Highlighter} {colored : Bool} {line : String}
    (hc : c ∈ (h.paint colored line).toList) :
    c ∈ line.toList ∨ c ∈ (inYellow "").toList := by
  rw [paint, String.toList_join, List.mem_flatMap] at hc
  obtain ⟨s, hs, hc⟩ := hc
  obtain ⟨piece, hpiece, rfl⟩ := List.mem_map.1 hs
  simp only [Piece.render] at hc
  split at hc
  · simp only [inYellow, String.toList_append, String.toList_ofList, List.mem_append] at hc ⊢
    obtain (hc | hc) | hc := hc
    · exact .inr (.inl (.inl hc))
    · exact .inl (mem_of_mem_pieces hpiece hc)
    · exact .inr (.inr hc)
  · rw [String.toList_ofList] at hc
    exact .inl (mem_of_mem_pieces hpiece hc)

end Highlighter

theorem count_join_ended {f : String → String} {d : Document}
    (h : ∀ line ∈ d, '\n' ∉ (f line).toList) :
    (String.join (d.map fun line => f line ++ "\n")).toList.count '\n' = d.length := by
  rw [String.toList_join]
  induction d with
  | nil => rfl
  | cons line lines ih =>
      obtain ⟨hline, hlines⟩ := List.forall_mem_cons.1 h
      have hnone : (f line).toList.count '\n' = 0 := List.count_eq_zero.2 hline
      rw [List.map_cons, List.flatMap_cons, List.count_append, String.toList_append,
        List.count_append, hnone, ih hlines, List.length_cons]
      exact Nat.add_comm _ _

/-- Lines that are printed one by one are as many as the line feeds among them, whether or not they
are painted. -/
theorem Job.count_printed {job : Job} (hjson : job.json = false) (rules : List (Rule String))
    {d : Document} (h : d.Unbroken) : (job.printed rules d).toList.count '\n' = d.length := by
  simp only [printed, hjson, Bool.false_eq_true, if_false]
  refine count_join_ended fun line hline => ?_
  split
  · intro hmem
    obtain hmem | hmem := Highlighter.mem_of_mem_paint hmem
    · exact h line hline hmem
    · revert hmem
      decide
  · exact h line hline

/-- Rules leave no character that is neither in the document nor in one of their texts, but for the
blank. If none of these is a line feed, as many line feeds are printed as there are lines. -/
theorem Rule.runAll_within {rules : List (Rule String)} {C : Set Char} (hspace : ' ' ∈ C)
    (hrules : ∀ q ∈ Rule.allParts .document rules, ∀ c ∈ q.rule.ownText.toList, c ∈ C)
    (status : Option String) {lines : Document} (hlines : lines.Within C) :
    let output := Rule.runAll status (Rule.compileAll rules).1 lines
    output.Within C ∧
      ('\n' ∉ C → output.Unbroken ∧
        ∀ job : Job, (Rule.readAll 1 job.rules).1 = rules → job.status = status →
          job.input = lines → job.target = none → job.json = false →
            job.finish.output.toList.count '\n' = output.length) := by
  intro output
  have hcompiled : ∀ q ∈ Rule.allParts .document (Rule.compileAll rules).1,
      ∀ c ∈ q.rule.ownText.toList, c ∈ C := by
    rw [Rule.forall_mem_allParts_compileAll]
    simpa only [Rule.ownText_compile] using hrules
  rw [Rule.forall_mem_allParts] at hcompiled
  have houtput : output.Within C :=
    Rule.within_runAll status
      (fun r hr _ => Rule.within_run hspace status (hcompiled r hr)) lines hlines
  refine ⟨houtput, fun hbreak => ?_⟩
  have hunbroken : output.Unbroken := fun line hline hmem => hbreak (houtput line hline '\n' hmem)
  refine ⟨hunbroken, ?_⟩
  rintro job rfl rfl rfl htarget hjson
  have hlines : job.lines = output := by
    rw [Job.lines, execute_fst, ← Rule.readAll_fst 1]
  rw [Job.finish_output, htarget, hlines]
  exact Job.count_printed hjson _ hunbroken

theorem Rule.runAll_within_captured :
    let rules : List (Rule String) :=
      [.substitute "(b)" "$1 c" true, .ifMatch "a" [.setLine 1 "a"], .arrange .join]
    let lines : Document := ["ab", "b"]
    let C : Set Char := {c | c ∈ "abc$1 ".toList}
    let job : Job :=
      ⟨["g/(b)/$1 c", "if/a/ \x7b s:1:a \x7d", "join"], none, lines, true, false, none, false, ""⟩
    let output := Rule.runAll none (Rule.compileAll rules).1 lines
    (∀ q ∈ Rule.allParts .document rules, ∀ c ∈ q.rule.ownText.toList, c ∈ C) ∧
      lines.Within C ∧ output.Within C ∧ output.Unbroken ∧
      (Rule.readAll 1 job.rules).1 = rules ∧ job.finish.output.toList.count '\n' = output.length ∧
      output = ["a b c"] := by
  intro rules lines C job output
  have hrules : ∀ q ∈ Rule.allParts .document rules, ∀ c ∈ q.rule.ownText.toList, c ∈ C := by
    simp [rules, C, Rule.allParts, Rule.parts, Rule.ownText]
  have hlines : lines.Within C := by
    simp [Document.Within, lines, C]
  have hspace : ' ' ∈ C := by
    simp [C]
  have hbreak : '\n' ∉ C := by
    simp [C]
  have hread : (Rule.readAll 1 job.rules).1 = rules := by with_unfolding_all rfl
  have houtput : output = ["a b c"] := by
    have hreplaced : lines.map (fun line =>
        (Pattern.compileOrNever "(b)").1.replace line "$1 c" true) = ["ab c", "b c"] := by
      simp only [lines]
      decide +kernel
    have hmatch : (Pattern.compileOrNever "a").1.matchesLine "ab c" = true := by decide +kernel
    have hother : (Pattern.compileOrNever "a").1.matchesLine "b c" = false := by decide +kernel
    simp only [output, rules, Rule.compileAll, Rule.compile, Rule.runAll, Rule.run, hreplaced,
      List.flatMap_cons, hmatch, hother]
    rfl
  obtain ⟨hwithin, hlast⟩ := Rule.runAll_within hspace hrules none hlines
  obtain ⟨hunbroken, hprinted⟩ := hlast hbreak
  exact ⟨hrules, hlines, hwithin, hunbroken, hread, hprinted job hread rfl rfl rfl rfl, houtput⟩

end Linewise
