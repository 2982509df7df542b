import Linewise.Proofs.Rule.Language
import Linewise.Rule.Run

/-!
Faults in rules. A text that is no rule stands for a rule that does nothing, and a pattern that is
none never matches. Both are reported, texts before patterns and each kind in the order in which the
faults stand in the texts, and neither stops a run or changes what the other rules do.
-/
namespace Linewise

mutual

def Rule.patterns {π : Type} : Rule π → List π
  | .substitute p _ _ | .keepMatching p => [p]
  | .setLine _ _ | .keepLines _ | .keepAll | .arrange _ | .idle => []
  | .ifMatch p body => p :: Rule.allPatterns body
  | .between start stop body => start :: stop :: Rule.allPatterns body
  | .onStatus _ body otherwise => Rule.allPatterns body ++ Rule.allPatterns otherwise

/-- The patterns of rules and of all their blocks, whether or not a block would ever run. -/
def Rule.allPatterns {π : Type} : List (Rule π) → List π
  | [] => []
  | r :: rs => r.patterns ++ Rule.allPatterns rs

end

/-- Texts that stand one after the other in a longer text, with anything around them. -/
inductive InOrder : List (List Char) → List Char → Prop
  | nil (s : List Char) : InOrder [] s
  | cons (gap t : List Char) {ts : List (List Char)} {s : List Char} :
      InOrder ts s → InOrder (t :: ts) (gap ++ (t ++ s))

namespace InOrder

variable {ts ts' : List (List Char)} {s s' : List Char}

theorem prepend (w : List Char) (h : InOrder ts s) : InOrder ts (w ++ s) := by
  cases h with
  | nil => exact .nil _
  | cons gap t h =>
      rw [← List.append_assoc]
      exact .cons (w ++ gap) t h

theorem append (h : InOrder ts s) (h' : InOrder ts' s') : InOrder (ts ++ ts') (s ++ s') := by
  induction h with
  | nil s => exact h'.prepend s
  | cons gap t h ih =>
      rw [List.append_assoc, List.append_assoc]
      exact .cons gap t ih

end InOrder

/-- A pattern as it is written, up to the slash that closes it. -/
def patternText (p : String) : List Char := escapeSlashes p.toList ++ ['/']

theorem InOrder.pattern (p : String) (gap : List Char) {ts : List (List Char)} {s : List Char}
    (h : InOrder ts s) :
    InOrder (patternText p :: ts) (gap ++ (escapeSlashes p.toList ++ '/' :: s)) := by
  have := InOrder.cons gap (patternText p) h
  simpa [patternText] using this

theorem InOrder.block (w : List Char) {ts : List (List Char)} {s : List Char}
    (h : InOrder ts s) : InOrder ts (w ++ '{' :: s) := by
  have := h.prepend (w ++ ['{'])
  simpa using this

mutual

/-- The patterns of a rule stand in each of its texts, in the order of `Rule.patterns`. -/
theorem Written.inOrder {scope : Scope} {r : Rule String} {e : Ending} {u : List Char} :
    Written scope r e u → InOrder (r.patterns.map patternText) u
  | .substituteClosed _ | .substituteOpen _ | .substituteDangling _ => .pattern _ _ (.nil _)
  | .setLine _ | .keepIndex _ _ | .keepRange _ _ _ | .keepAll | .arrange _ => .nil _
  | @Written.keepMatching _ p word _ => by
      have := InOrder.pattern p (word ++ ['/']) (.nil [])
      simpa [Rule.patterns] using this
  | .ifMatch _ hv => .pattern _ _ (hv.inOrder.block _)
  | .between _ hv => .pattern _ _ (.pattern _ [] (hv.inOrder.block _))
  | .onStatus _ hv => by
      rw [Rule.patterns, Rule.allPatterns, List.append_nil]
      exact ((hv.inOrder.block _).prepend _).prepend _
  | .onStatusElse _ hv _ _ hv' => by
      rw [Rule.patterns, List.map_append]
      refine (InOrder.block _ (hv.inOrder.append ?_)).prepend _ |>.prepend _
      exact ((hv'.inOrder.block _).prepend _).prepend _

theorem WrittenBody.inOrder {rs : List (Rule String)} {v : List Char} :
    WrittenBody rs v → InOrder ((Rule.allPatterns rs).map patternText) v
  | .nil _ => .nil _
  | .cons _ hu _ hv => by
      rw [Rule.allPatterns, List.map_append]
      exact (hu.inOrder.append hv.inOrder).prepend _

end

/-- What a warning tells: the number of the rule and the place in it only where it knows them. -/
structure Report where
  text : String
  rule : Option Nat
  position : Option Nat

def Warning.report (w : Warning) : Report := ⟨w.text, w.rule?, w.position?⟩

/-- The rule that a text stands for: one that does nothing if the text is no rule. -/
def Rule.readOrIdle (source : String) : Rule String :=
  match Rule.read source with
  | .ok r => r
  | .error _ => .idle

/-- The rules among some texts. -/
def Rule.accepted (sources : List String) : List (Rule String) :=
  sources.filterMap fun source => (Rule.read source).toOption

/-- The report of a text that should be the rule of the given number, unless it is one. -/
def Report.ofSource? (source : String) (number : Nat) : Option Report :=
  match Rule.read source with
  | .ok _ => none
  | .error e =>
      some ⟨"rule " ++ toString number ++ ": " ++ e.message source, some number,
        some (e.offset source)⟩

theorem Rule.readAll_fst (number : Nat) (sources : List String) :
    (Rule.readAll number sources).1 = sources.map Rule.readOrIdle := by
  induction sources generalizing number with
  | nil => rfl
  | cons source sources ih =>
      rw [Rule.readAll, List.map_cons, ← ih (number + 1), Rule.readOrIdle]
      cases Rule.read source <;> rfl

theorem Rule.readAll_reports (number : Nat) (sources : List String) :
    (Rule.readAll number sources).2.map Warning.report =
      (sources.zipIdx number).filterMap fun s => Report.ofSource? s.1 s.2 := by
  induction sources generalizing number with
  | nil => rfl
  | cons source sources ih =>
      rw [Rule.readAll, List.zipIdx_cons, List.filterMap_cons, ← ih (number + 1),
        Report.ofSource?]
      cases Rule.read source <;> rfl

/-- A rule that does nothing has no patterns. -/
theorem Rule.allPatterns_readOrIdle (sources : List String) :
    Rule.allPatterns (sources.map Rule.readOrIdle) = Rule.allPatterns (Rule.accepted sources) := by
  induction sources with
  | nil => rfl
  | cons source sources ih =>
      rw [List.map_cons, Rule.allPatterns, ih, Rule.readOrIdle, Rule.accepted, Rule.accepted,
        List.filterMap_cons]
      cases Rule.read source <;> rfl

theorem Rule.inOrder_readOrIdle (source : String) :
    InOrder ((Rule.readOrIdle source).patterns.map patternText) source.toList := by
  rw [Rule.readOrIdle]
  cases h : Rule.read source with
  | error _ => exact .nil _
  | ok r =>
      obtain ⟨-, w, u, w', e, -, -, hu, -, hs⟩ := Rule.of_read h
      have hafter := hu.inOrder.append (.nil w')
      rw [List.append_nil] at hafter
      rw [hs]
      exact hafter.prepend w

/-- The report of a bad pattern. It tells neither the rule nor the place. -/
def Report.ofPattern? (source : String) : Option Report :=
  match Pattern.compile source with
  | .ok _ => none
  | .error e => some ⟨"invalid regex '" ++ source ++ "': " ++ e.message source, none, none⟩

mutual

theorem Rule.compile_snd : (r : Rule String) →
    r.compile.2 = r.patterns.flatMap fun p => (Pattern.compileOrNever p).2
  | .substitute _ _ _ | .keepMatching _ => (List.append_nil _).symm
  | .setLine _ _ | .keepLines _ | .keepAll | .arrange _ | .idle => rfl
  | .ifMatch _ body | .between _ _ body => by
      simp only [Rule.compile, Rule.patterns, Rule.compileAll_patterns body, List.flatMap_cons]
  | .onStatus _ body otherwise => by
      simp only [Rule.compile, Rule.patterns, Rule.compileAll_patterns body,
        Rule.compileAll_patterns otherwise, List.flatMap_append]

theorem Rule.compileAll_patterns : (rs : List (Rule String)) →
    (Rule.compileAll rs).2 = (Rule.allPatterns rs).flatMap fun p => (Pattern.compileOrNever p).2
  | [] => rfl
  | r :: rs => by
      simp only [Rule.compileAll, Rule.allPatterns, Rule.compile_snd r,
        Rule.compileAll_patterns rs, List.flatMap_append]

end

theorem Rule.compileAll_reports (rs : List (Rule String)) :
    (Rule.compileAll rs).2.map Warning.report =
      (Rule.allPatterns rs).filterMap Report.ofPattern? := by
  rw [Rule.compileAll_patterns]
  induction Rule.allPatterns rs with
  | nil => rfl
  | cons p ps ih =>
      rw [List.flatMap_cons, List.map_append, ih, List.filterMap_cons, Pattern.compileOrNever,
        Report.ofPattern?]
      cases Pattern.compile p <;> rfl

/-- What is read from texts that are no rules runs like no rules at all. -/
theorem Rule.runAll_accepted (status : Option String) (sources : List String) (lines : Document) :
    Rule.runAll status (Rule.compileAll (sources.map Rule.readOrIdle)).1 lines =
      Rule.runAll status (Rule.compileAll (Rule.accepted sources)).1 lines := by
  induction sources generalizing lines with
  | nil => rfl
  | cons source sources ih =>
      rw [List.map_cons, Rule.readOrIdle, Rule.accepted, List.filterMap_cons]
      cases Rule.read source with
      | ok r => exact ih (r.compile.1.run status lines)
      | error _ => exact ih lines

theorem execute_fst (sources : List String) (status : Option String) (lines : Document) :
    (execute sources status lines).1 =
      Rule.runAll status (Rule.compileAll (sources.map Rule.readOrIdle)).1 lines := by
  rw [← Rule.readAll_fst 1]
  rfl

/-- Texts given one after the other run one after the other. -/
theorem execute_append_fst (sources sources' : List String) (status : Option String)
    (lines : Document) :
    (execute (sources ++ sources') status lines).1 =
      (execute sources' status (execute sources status lines).1).1 := by
  simp only [execute_fst, List.map_append, Rule.runAll_compileAll_append]

theorem execute_reports (sources : List String) (status : Option String) (lines : Document) :
    (execute sources status lines).2.map Warning.report =
      ((sources.zipIdx 1).filterMap fun s => Report.ofSource? s.1 s.2) ++
        (Rule.allPatterns (Rule.accepted sources)).filterMap Report.ofPattern? := by
  have hbad := Rule.compileAll_reports (sources.map Rule.readOrIdle)
  rw [Rule.allPatterns_readOrIdle] at hbad
  rw [← Rule.readAll_reports, ← hbad, ← Rule.readAll_fst 1, ← List.map_append]
  rfl

theorem Rule.accepted_filter (sources : List String) :
    Rule.accepted (sources.filter fun source => (Rule.read source).isOk) =
      Rule.accepted sources := by
  rw [Rule.accepted, Rule.accepted, List.filterMap_filter]
  congr 1
  funext source
  cases Rule.read source <;> rfl

/-- Every text stands for one rule, and its patterns stand in it in the order of `Rule.patterns`.
Each fault is reported once, texts by their number from 1 on, and what the lines become is up to the
texts that are rules. -/
theorem execute_reports_faults (sources : List String) (status : Option String)
    (lines : Document) :
    (Rule.readAll 1 sources).1 = sources.map Rule.readOrIdle ∧
      (execute sources status lines).2.map Warning.report =
        ((sources.zipIdx 1).filterMap fun s => Report.ofSource? s.1 s.2) ++
          (Rule.allPatterns (Rule.accepted sources)).filterMap Report.ofPattern? ∧
      (∀ source, InOrder ((Rule.readOrIdle source).patterns.map patternText) source.toList) ∧
      (execute sources status lines).1 =
        (execute (sources.filter fun source => (Rule.read source).isOk) status lines).1 := by
  refine ⟨Rule.readAll_fst 1 sources, execute_reports sources status lines,
    Rule.inOrder_readOrIdle, ?_⟩
  rw [execute_fst, execute_fst, Rule.runAll_accepted, Rule.runAll_accepted, Rule.accepted_filter]

end Linewise
