import Linewise.Pattern.Basic

/-!
Where the characters of a line come from once its matches are replaced. A group stands for a stretch
of the line, and what a replacement text says besides groups it says itself. So every character was
in the line or in the replacement text before.
-/
namespace Linewise.Pattern

variable {c : Char}

theorem mem_of_mem_extract {line : Array Char} {start stop : Nat}
    (h : c ∈ (line.extract start stop).toList) : c ∈ line.toList := by
  rw [Array.toList_extract, List.extract_eq_take_drop] at h
  exact List.mem_of_mem_drop (List.mem_of_mem_take h)

theorem Match.mem_captured {n : Nat} {m : Match n} {line : Array Char} {group : Nat}
    (h : c ∈ m.captured line group) : c ∈ line.toList := by
  rw [Match.captured] at h
  split at h
  · exact mem_of_mem_extract h
  · cases h

/-- What a match is replaced by is made of what the match captured and of the replacement text. -/
theorem Match.mem_expand {n : Nat} {m : Match n} {line : Array Char} {names : List (String × Nat)}
    {replacement : List Char} (h : c ∈ m.expand line names (Piece.ofChars replacement)) :
    c ∈ line.toList ∨ c ∈ replacement := by
  obtain ⟨piece, hpiece, hc⟩ := List.mem_flatMap.1 h
  cases piece with
  | char d =>
      obtain rfl := List.mem_singleton.1 hc
      exact .inr (Piece.mem_of_char_mem_ofChars hpiece)
  | group index => exact .inl (Match.mem_captured hc)
  | named name =>
      simp only at hc
      split at hc
      · exact .inl (Match.mem_captured hc)
      · cases hc

theorem mem_splice {line : Array Char} {replace : Match line.size → List Char} {position : Nat}
    {ms : List (Match line.size)} (h : c ∈ splice line replace position ms) :
    c ∈ line.toList ∨ ∃ m ∈ ms, c ∈ replace m := by
  induction ms generalizing position with
  | nil => exact .inl (mem_of_mem_extract h)
  | cons m ms ih =>
      rw [splice, List.mem_append, List.mem_append] at h
      obtain h | h | h := h
      · exact .inl (mem_of_mem_extract h)
      · exact .inr ⟨m, List.mem_cons_self, h⟩
      · obtain h | ⟨m', hm', h⟩ := ih h
        · exact .inl h
        · exact .inr ⟨m', List.mem_cons_of_mem m hm', h⟩

/-- A line with its matches replaced has no character that neither the line nor the replacement text
had. -/
theorem mem_replace {p : Pattern} {line replacement : String} {everywhere : Bool}
    (h : c ∈ (p.replace line replacement everywhere).toList) :
    c ∈ line.toList ∨ c ∈ replacement.toList := by
  rw [replace] at h
  split at h
  · exact .inl h
  · rw [String.toList_ofList] at h
    obtain h | ⟨m, -, h⟩ := mem_splice h
    · exact .inl h
    · exact Match.mem_expand h

end Linewise.Pattern
