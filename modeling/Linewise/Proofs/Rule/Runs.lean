import Linewise.Rule.Reader
import Mathlib.Data.List.TakeWhile

/-!
Runs of characters of one kind: digits, layout, separators, the characters of a status code. A run
that is followed by a character of another kind is taken whole, and nothing else is taken.
-/
namespace Linewise

variable {p : Char → Bool} {w rest : List Char}

theorem takeWhile_run (hw : ∀ c ∈ w, p c = true) (hr : ∀ c ∈ rest.head?, p c = false) :
    (w ++ rest).takeWhile p = w := by
  rw [List.takeWhile_append_of_pos hw]
  cases rest with
  | nil => simp
  | cons c s => simp [hr c rfl]

theorem dropWhile_run (hw : ∀ c ∈ w, p c = true) (hr : ∀ c ∈ rest.head?, p c = false) :
    (w ++ rest).dropWhile p = rest := by
  rw [List.dropWhile_append_of_pos hw]
  cases rest with
  | nil => rfl
  | cons c s => simp [hr c rfl]

theorem head?_dropWhile (p : Char → Bool) (s : List Char) :
    ∀ c ∈ (s.dropWhile p).head?, p c = false := by
  intro c hc
  have h := List.head?_dropWhile_not p s
  rw [hc] at h
  simpa using h

/-- Every text is a run and what follows it. -/
theorem exists_run (p : Char → Bool) (s : List Char) :
    ∃ w, s = w ++ s.dropWhile p ∧ w = s.takeWhile p ∧ ∀ c ∈ w, p c = true :=
  ⟨s.takeWhile p, List.takeWhile_append_dropWhile.symm, rfl, fun _ => List.mem_takeWhile_imp⟩

end Linewise
