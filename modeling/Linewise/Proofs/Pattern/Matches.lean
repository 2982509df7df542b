import Linewise.Pattern.Basic

/-!
The matches on a line. They come from left to right and no two of them overlap, a line matches just
if there is one, and a replacement applies to the first of them or to all. The first group of a match
is the match itself.
-/
namespace Linewise.Pattern

/-- Whether stretches come one after the other, from a position on. -/
def Ascend {n : Nat} (position : Nat) : List (Span n) → Prop
  | [] => True
  | s :: spans => position ≤ s.start ∧ Ascend s.stop spans

theorem Ascend.pairwise {n position : Nat} {spans : List (Span n)} (h : Ascend position spans) :
    spans.Pairwise fun s s' => s.stop ≤ s'.start := by
  have hle : ∀ {position : Nat} {spans : List (Span n)}, Ascend position spans →
      ∀ s ∈ spans, position ≤ s.start := by
    intro position spans h
    induction spans generalizing position with
    | nil => exact List.forall_mem_nil _
    | cons s spans ih =>
        refine List.forall_mem_cons.2 ⟨h.1, fun s' hs' => ?_⟩
        exact Nat.le_trans h.1 (Nat.le_trans s.start_le (ih h.2 s' hs'))
  induction spans generalizing position with
  | nil => exact .nil
  | cons s spans ih => exact .cons (hle h.2) (ih h.2)

namespace Search

variable (s : Search) (text : Array Char)

/-- The matches from a position on start with an answer of the search, and go on behind it. -/
theorem matchesFrom_cases (position : Nat) (ended : Option Nat) :
    s.matchesFrom text position ended = [] ∨
      ∃ start m, position ≤ start ∧ s.find? text start = some m ∧
        s.matchesFrom text position ended =
          m.1 :: s.matchesFrom text m.1.whole.stop (some m.1.whole.stop) := by
  rw [matchesFrom]
  split
  · exact .inl rfl
  · rename_i m h hfind
    split
    · split
      · exact .inl rfl
      · rename_i hnext
        exact .inr ⟨position + 1, _, Nat.le_succ position, hnext, rfl⟩
    · exact .inr ⟨position, _, Nat.le_refl position, hfind, rfl⟩

theorem ascend_matchesFrom (position : Nat) (ended : Option Nat) :
    Ascend position ((s.matchesFrom text position ended).map Match.whole) := by
  generalize hms : s.matchesFrom text position ended = ms
  induction ms generalizing position ended with
  | nil => trivial
  | cons m ms ih =>
      obtain h | ⟨start, m', hstart, -, h⟩ := s.matchesFrom_cases text position ended
      · cases hms.symm.trans h
      · obtain ⟨rfl, hrest⟩ := List.cons.inj (hms.symm.trans h)
        exact ⟨Nat.le_trans hstart m'.2, ih _ _ hrest.symm⟩

theorem groups_zero_of_mem_matchesFrom {position : Nat} {ended : Option Nat} {m : Match text.size}
    (hm : m ∈ s.matchesFrom text position ended) : m.groups[0]? = some (some m.whole) := by
  generalize hms : s.matchesFrom text position ended = ms at hm
  induction ms generalizing position ended with
  | nil => cases hm
  | cons m' ms ih =>
      obtain h | ⟨start, m'', -, hfind, h⟩ := s.matchesFrom_cases text position ended
      · cases hms.symm.trans h
      · obtain ⟨rfl, hrest⟩ := List.cons.inj (hms.symm.trans h)
        obtain rfl | hm := List.mem_cons.1 hm
        · exact s.groups_zero_of_find? hfind
        · exact ih hrest.symm hm

/-- The search from the start finds the first match. -/
theorem head?_allMatches : (s.allMatches text).head? = (s.find? text 0).map Subtype.val := by
  rw [allMatches, matchesFrom]
  split
  · rename_i h
    rw [h]
    rfl
  · rename_i m _ h
    rw [h, dif_neg (by simp)]
    rfl

end Search

variable (p : Pattern) (line : Array Char)

theorem ascend_matchesOn : Ascend 0 ((p.matchesOn line).map Match.whole) := by
  rw [matchesOn]
  split
  · trivial
  · exact Search.ascend_matchesFrom _ line 0 none

theorem groups_zero_of_mem_matchesOn {m : Match line.size} (hm : m ∈ p.matchesOn line) :
    m.groups[0]? = some (some m.whole) := by
  rw [matchesOn] at hm
  split at hm
  · cases hm
  · exact Search.groups_zero_of_mem_matchesFrom _ line hm

/-- A replacement applies to the first match, or to all of them. -/
theorem replaced_eq (everywhere : Bool) :
    p.replaced line everywhere =
      if everywhere then p.matchesOn line else (p.matchesOn line).head?.toList := by
  cases everywhere with
  | true => rfl
  | false =>
      rw [replaced, matchesOn]
      cases p.search with
      | none => rfl
      | some search =>
          simp only [Bool.false_eq_true, if_false, Search.head?_allMatches]
          cases search.find? line 0 <;> rfl

theorem matchesLine_eq (line : String) :
    p.matchesLine line = (p.matchesOn line.toList.toArray).head?.isSome := by
  rw [matchesLine, matchesOn]
  split
  · rfl
  · rw [Search.head?_allMatches, Option.isSome_map]

end Linewise.Pattern
