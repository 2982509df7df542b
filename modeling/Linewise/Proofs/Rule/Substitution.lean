import Linewise.Proofs.Pattern.Matches
import Linewise.Proofs.Unicode.Offset
import Linewise.Rule.Run

/-!
Substitutions. What a substitution leaves of a line is the text around the matches that it replaces,
in order and as it was, with what each match is replaced by in its place. So a line without a match
stays, whether a substitution asks for matches itself or an `if` does so first, and a replacement by
the match itself changes nothing.
-/
namespace Linewise

namespace Pattern

/-- The texts around stretches of a line, from a position on: one before each stretch, and one behind
the last. -/
def gaps (line : Array Char) (position : Nat) : List (Span line.size) → List (List Char)
  | [] => [(line.extract position line.size).toList]
  | s :: spans => (line.extract position s.start).toList :: gaps line s.stop spans

/-- The texts of two lists by turns, the first list first. -/
def interleave : List (List Char) → List (List Char) → List Char
  | s :: texts, t :: others => s ++ (t ++ interleave texts others)
  | texts, [] => texts.flatten
  | [], others => others.flatten

/-- What a match is replaced by. -/
def expansion (p : Pattern) (line : Array Char) (replacement : String) (m : Match line.size) :
    List Char :=
  m.expand line ((p.search.map Search.names).getD []) (Piece.ofChars replacement.toList)

section

variable {line : Array Char} {position : Nat}

theorem length_gaps (spans : List (Span line.size)) :
    (gaps line position spans).length = spans.length + 1 := by
  induction spans generalizing position with
  | nil => rfl
  | cons s spans ih => rw [gaps, List.length_cons, ih, List.length_cons]

theorem splice_eq_interleave (replace : Match line.size → List Char)
    (ms : List (Match line.size)) :
    splice line replace position ms =
      interleave (gaps line position (ms.map Match.whole)) (ms.map replace) := by
  induction ms generalizing position with
  | nil => simp [splice, gaps, interleave]
  | cons m ms ih => rw [splice, ih, List.map_cons, List.map_cons, gaps, interleave]

/-- With the stretches themselves in their places, the texts around them make up the line. -/
theorem interleave_gaps {spans : List (Span line.size)} (h : Ascend position spans)
    (hposition : position ≤ line.size) :
    interleave (gaps line position spans) (spans.map fun s => s.chars line) =
      line.toList.drop position := by
  induction spans generalizing position with
  | nil => simp [gaps, interleave, List.extract_eq_take_drop]
  | cons s spans ih =>
      rw [gaps, List.map_cons, interleave, ih h.2 s.stop_le, Span.chars, Array.toList_extract,
        Array.toList_extract, extract_append_drop _ s.start_le, extract_append_drop _ h.1]

end

variable (p : Pattern) (line : String)

theorem ascend_replaced (everywhere : Bool) :
    Ascend 0 ((p.replaced line.toList.toArray everywhere).map Match.whole) := by
  have hall := p.ascend_matchesOn line.toList.toArray
  rw [replaced_eq]
  cases everywhere with
  | true => exact hall
  | false =>
      cases hms : p.matchesOn line.toList.toArray with
      | nil => trivial
      | cons m ms => exact ⟨Nat.zero_le _, trivial⟩

theorem toList_replace (replacement : String) (everywhere : Bool) :
    let chars := line.toList.toArray
    let ms := p.replaced chars everywhere
    (p.replace line replacement everywhere).toList =
      interleave (gaps chars 0 (ms.map Match.whole)) (ms.map (p.expansion chars replacement)) := by
  intro chars ms
  rw [← splice_eq_interleave, replace]
  split
  · rename_i hnone
    simp [ms, chars, hnone, splice]
  · rw [String.toList_ofList]
    rfl

/-- The line as it was, said in the same way. -/
theorem toList_eq_interleave (everywhere : Bool) :
    let chars := line.toList.toArray
    let spans := (p.replaced chars everywhere).map Match.whole
    line.toList = interleave (gaps chars 0 spans) (spans.map fun s => s.chars chars) := by
  intro chars spans
  rw [interleave_gaps (p.ascend_replaced line everywhere) (Nat.zero_le _), List.drop_zero]

theorem replace_of_not_matchesLine (h : p.matchesLine line = false) (replacement : String)
    (everywhere : Bool) : p.replace line replacement everywhere = line := by
  have hnone : p.replaced line.toList.toArray everywhere = [] := by
    rw [matchesLine_eq, Option.isSome_eq_false_iff, Option.isNone_iff_eq_none,
      List.head?_eq_none_iff] at h
    rw [replaced_eq, h]
    exact ite_self _
  rw [replace, hnone]

theorem expansion_group_zero {replacement : String}
    (h : Piece.ofChars replacement.toList = [.group 0]) {m : Match line.toList.toArray.size}
    {everywhere : Bool} (hm : m ∈ p.replaced line.toList.toArray everywhere) :
    p.expansion line.toList.toArray replacement m = m.whole.chars line.toList.toArray := by
  have hmem : m ∈ p.matchesOn line.toList.toArray := by
    rw [replaced_eq] at hm
    split at hm
    · exact hm
    · exact List.mem_of_mem_head? (Option.mem_toList.1 hm)
  rw [expansion, h, Match.expand, List.flatMap_singleton]
  simp only [Match.captured, p.groups_zero_of_mem_matchesOn line.toList.toArray hmem]

/-- A line whose matches are replaced by their own group 0 stays as it is. -/
theorem replace_group_zero {replacement : String}
    (h : Piece.ofChars replacement.toList = [.group 0]) (everywhere : Bool) :
    p.replace line replacement everywhere = line := by
  have hms : (p.replaced line.toList.toArray everywhere).map
      (p.expansion line.toList.toArray replacement) =
      ((p.replaced line.toList.toArray everywhere).map Match.whole).map
        fun s => s.chars line.toList.toArray := by
    rw [List.map_map]
    exact List.map_congr_left fun m hm => p.expansion_group_zero line h hm
  rw [← String.toList_inj, toList_replace, hms]
  exact (p.toList_eq_interleave line everywhere).symm

end Pattern

section

variable (p : Pattern) (replacement : String) (everywhere : Bool) (status : Option String)
  (lines : Document)

theorem Rule.run_substitute :
    (Rule.substitute p replacement everywhere).run status lines =
      lines.map fun line => p.replace line replacement everywhere := by
  rw [Rule.run]

/-- A substitution leaves lines alone that an `if` would keep from it. -/
theorem Rule.run_ifMatch_substitute :
    (Rule.ifMatch p [.substitute p replacement everywhere]).run status lines =
      (Rule.substitute p replacement everywhere).run status lines := by
  rw [Rule.run_substitute, Rule.run, ← List.flatMap_singleton' (lines.map _), List.flatMap_map]
  congr 1
  funext line
  split
  · rw [Rule.runAll, Rule.runAll, Rule.run_substitute, List.map_singleton]
  · rename_i hline
    rw [p.replace_of_not_matchesLine line (Bool.eq_false_iff.2 hline)]

end

/-- A substitution leaves the text around the matches as it stood in the line, and for each match
what it is replaced by. Asking first whether the line matches makes no difference, and a replacement
by the whole match changes nothing. -/
theorem Rule.run_substitute_around_matches (p : Pattern) (replacement : String) (everywhere : Bool)
    (status : Option String) (lines : Document) :
    let output (replacement : String) := (Rule.substitute p replacement everywhere).run status lines
    let replaced (line : String) :=
      let ms := p.matchesOn line.toList.toArray
      if everywhere then ms else ms.head?.toList
    let around (line : String) :=
      Pattern.gaps line.toList.toArray 0 ((replaced line).map Pattern.Match.whole)
    output replacement = lines.map (fun line => String.ofList (Pattern.interleave (around line)
        ((replaced line).map (p.expansion line.toList.toArray replacement)))) ∧
      (∀ line : String,
        line.toList = Pattern.interleave (around line)
          ((replaced line).map fun m => m.whole.chars line.toList.toArray) ∧
        (around line).length = (replaced line).length + 1 ∧
        (p.matchesOn line.toList.toArray).Pairwise (fun m m' => m.whole.stop ≤ m'.whole.start) ∧
        p.matchesLine line = (p.matchesOn line.toList.toArray).head?.isSome) ∧
      output replacement =
        (Rule.ifMatch p [.substitute p replacement everywhere]).run status lines ∧
      output "$0" = lines ∧ output "$\x7b0\x7d" = lines := by
  intro output replaced around
  have hreplaced : ∀ line : String, replaced line = p.replaced line.toList.toArray everywhere :=
    fun line => (p.replaced_eq line.toList.toArray everywhere).symm
  have houtput : ∀ replacement, output replacement =
      lines.map fun line => p.replace line replacement everywhere :=
    fun replacement => Rule.run_substitute p replacement everywhere status lines
  have hzero : ∀ replacement : String, Pattern.Piece.ofChars replacement.toList = [.group 0] →
      output replacement = lines := by
    intro replacement h
    have hline : (fun line : String => p.replace line replacement everywhere) = id :=
      funext fun line => p.replace_group_zero line h everywhere
    rw [houtput, hline, List.map_id]
  refine ⟨?_, ?_, ?_, ?_, ?_⟩
  · rw [houtput]
    apply List.map_congr_left
    intro line _
    rw [← String.toList_inj, String.toList_ofList, p.toList_replace, ← hreplaced]
  · intro line
    refine ⟨?_, ?_, ?_, p.matchesLine_eq line⟩
    · simpa only [around, hreplaced, List.map_map, Function.comp_def] using
        p.toList_eq_interleave line everywhere
    · rw [Pattern.length_gaps, List.length_map]
    · exact List.pairwise_map.1 (p.ascend_matchesOn line.toList.toArray).pairwise
  · exact (Rule.run_ifMatch_substitute p replacement everywhere status lines).symm
  · exact hzero "$0" (by decide +kernel)
  · exact hzero "$\x7b0\x7d" (by decide +kernel)

end Linewise
