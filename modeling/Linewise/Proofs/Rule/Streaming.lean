import Linewise.Proofs.Rule.Parts

/-!
Rules that stream. Rules that look at one line at a time could be run while the lines come in: a
document in two pieces leaves what the one piece leaves and then what the other does. What stands in
the block of an `if` makes no difference, since no such block ever sees two lines.
-/
namespace Linewise

/-- Whether a rule that runs on a document does nothing with more than one of its lines. A branch on
the status is as local as the rules in it. -/
def Rule.isLineLocal {π : Type} : Rule π → Bool
  | .substitute _ _ _ | .keepMatching _ | .keepAll | .idle => true
  | .ifMatch _ _ | .onStatus _ _ _ => true
  | .setLine _ _ | .keepLines _ | .arrange _ | .between _ _ _ => false

theorem Rule.isLineLocal_compile (r : Rule String) : r.compile.1.isLineLocal = r.isLineLocal := by
  cases r <;> rfl

/-- What is left of a document is left of its pieces. -/
structure Streams (f : Document → Document) : Prop where
  nil : f [] = []
  append : ∀ xs ys, f (xs ++ ys) = f xs ++ f ys

namespace Streams

variable {f g : Document → Document}

theorem refl : Streams fun lines => lines :=
  ⟨rfl, fun _ _ => rfl⟩

theorem comp (hg : Streams g) (hf : Streams f) : Streams fun lines => g (f lines) := by
  constructor
  · rw [hf.nil, hg.nil]
  · intro xs ys
    rw [hf.append, hg.append]

/-- What is left of each line depends on nothing but that line. -/
theorem eq_flatMap (h : Streams f) (lines : Document) :
    f lines = lines.flatMap fun line => f [line] := by
  induction lines with
  | nil => exact h.nil
  | cons line lines ih => rw [List.flatMap_cons, ← ih, ← h.append, List.singleton_append]

end Streams

namespace Rule

variable (status : Option String)

theorem runAll_streams {rs : List (Rule Pattern)} (h : ∀ r ∈ rs, Streams (r.run status)) :
    Streams (runAll status rs) := by
  induction rs with
  | nil => exact .refl
  | cons r rs ih =>
      obtain ⟨hr, hrs⟩ := List.forall_mem_cons.1 h
      exact (ih hrs).comp hr

theorem run_streams {r : Rule Pattern}
    (h : ∀ q ∈ r.parts .document, q.place = .document → q.rule.isLineLocal) :
    Streams (r.run status) := by
  induction r with
  | substitute _ _ _ => exact ⟨rfl, fun _ _ => List.map_append⟩
  | keepMatching _ => exact ⟨rfl, fun _ _ => List.filter_append ..⟩
  | keepAll | idle => exact .refl
  | ifMatch _ _ _ => exact ⟨rfl, fun _ _ => List.flatMap_append⟩
  | setLine _ _ | keepLines _ | arrange _ | between _ _ _ _ =>
      cases h _ (mem_parts .document _) rfl
  | onStatus code body otherwise ih ih' =>
      obtain ⟨-, hbody, hotherwise⟩ := forall_mem_parts_onStatus.1 h
      have hthen := runAll_streams status fun r hr => ih r hr (hbody r hr)
      have helse := runAll_streams status fun r hr => ih' r hr (hotherwise r hr)
      constructor
      · rw [run]
        split
        · exact hthen.nil
        · exact helse.nil
      · intro xs ys
        simp only [run]
        split
        · exact hthen.append xs ys
        · exact helse.append xs ys

end Rule

/-- Rules that are line by line, wherever they run on a document, leave of two documents what they
leave of the one and then of the other, and nothing of none. So each line goes its own way. -/
theorem Rule.runAll_lineLocal {rules : List (Rule String)}
    (h : ∀ q ∈ Rule.allParts .document rules, q.place = .document → q.rule.isLineLocal)
    (status : Option String) :
    let output := Rule.runAll status (Rule.compileAll rules).1
    (∀ xs ys, output (xs ++ ys) = output xs ++ output ys) ∧ output [] = [] ∧
      ∀ lines, output lines = lines.flatMap fun line => output [line] := by
  intro output
  have hlocal : ∀ q ∈ Rule.allParts .document (Rule.compileAll rules).1,
      q.place = .document → q.rule.isLineLocal := by
    rw [Rule.forall_mem_allParts_compileAll]
    simpa only [Rule.isLineLocal_compile] using h
  rw [Rule.forall_mem_allParts] at hlocal
  have hstreams : Streams output :=
    Rule.runAll_streams status fun r hr => Rule.run_streams status (hlocal r hr)
  exact ⟨hstreams.append, hstreams.nil, hstreams.eq_flatMap⟩

theorem Rule.runAll_lineLocal_join :
    let rules : List (Rule String) :=
      [.ifMatch "a" [.setLine (-1) "b", .arrange .join],
        .onStatus "1" [.substitute "b" "" true] [.keepMatching "b"]]
    let output := Rule.runAll none (Rule.compileAll rules).1
    (∀ q ∈ Rule.allParts .document rules, q.place = .document → q.rule.isLineLocal) ∧
      output (["c", "a"] ++ ["b", "a"]) = output ["c", "a"] ++ output ["b", "a"] ∧
      output [] = [] ∧
      output ["c", "a"] = ["c", "a"].flatMap fun line => output [line] := by
  intro rules output
  have hlocal : ∀ q ∈ Rule.allParts .document rules,
      q.place = .document → q.rule.isLineLocal := by decide
  obtain ⟨happend, hnil, hlines⟩ := Rule.runAll_lineLocal hlocal none
  exact ⟨hlocal, happend ["c", "a"] ["b", "a"], hnil, hlines ["c", "a"]⟩

end Linewise
