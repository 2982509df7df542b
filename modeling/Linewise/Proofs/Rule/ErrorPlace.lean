import Linewise.Proofs.Rule.Outcome

/-!
Places of errors. Where a text is no rule, the error stands between two of its characters, and what
comes before it is the beginning of some rule: reading never goes past the first character that no
rule could have had there.
-/
namespace Linewise

/-- An error that stands after some of the text stands after as many bytes as it has. -/
theorem ReadError.offset_append {e : ReadError} {pre : String} (h : pre.length = e.column)
    (post : String) : e.offset (pre ++ post) = pre.utf8ByteSize := by
  rw [ReadError.offset, ← h, String.toList_append, ← String.length_toList, List.take_left,
    utf8Size_toList]

/-- An error parts the text in two, and its place is the size of the first part. -/
theorem Rule.exists_append_of_read_error {source : String} {e : ReadError}
    (h : Rule.read source = .error e) :
    ∃ pre post : String, source = pre ++ post ∧ pre.utf8ByteSize = e.offset source ∧
      pre.length = e.column := by
  have ho := Rule.read_outcome source
  rw [h] at ho
  obtain ⟨pre, post, hs, hlength, -⟩ := ho
  obtain rfl : source = .ofList pre ++ .ofList post := by
    rw [← String.ofList_append, ← hs, String.ofList_toList]
  rw [← String.length_ofList] at hlength
  exact ⟨.ofList pre, .ofList post, rfl, (ReadError.offset_append hlength _).symm, hlength⟩

/-- The place of an error lies within the text and between two of its characters, and the text before
it can be completed to a rule. -/
theorem Rule.read_error_place {source : String} {e : ReadError}
    (h : Rule.read source = .error e) :
    e.offset source ≤ source.utf8ByteSize ∧
      (String.Pos.Raw.mk (e.offset source)).IsValid source ∧
      ∃ pre post : String, source = pre ++ post ∧ pre.utf8ByteSize = e.offset source ∧
        pre.length = e.column ∧ ∃ x r, Rule.read (pre ++ x) = .ok r := by
  have ho := Rule.read_outcome source
  rw [h] at ho
  obtain ⟨pre, post, hs, hlength, x, r, hread⟩ := ho
  obtain ⟨pre, rfl⟩ : ∃ p : String, pre = p.toList := ⟨.ofList pre, String.toList_ofList.symm⟩
  obtain ⟨post, rfl⟩ : ∃ p : String, post = p.toList := ⟨.ofList post, String.toList_ofList.symm⟩
  obtain rfl : source = pre ++ post := by
    rw [← String.toList_inj, hs, String.toList_append]
  rw [String.length_toList] at hlength
  have hoffset := ReadError.offset_append hlength post
  rw [hoffset]
  refine ⟨?_, String.Pos.Raw.isValid_iff_exists_append.2 ⟨pre, post, rfl, rfl⟩,
    pre, post, rfl, rfl, hlength, .ofList x, r, ?_⟩
  · rw [String.utf8ByteSize_append]
    exact Nat.le_add_right _ _
  · rw [← hread, String.ofList_append, String.ofList_toList]

/-- Here the error stands after seven characters of thirteen bytes. -/
theorem Rule.read_error_place_wide :
    Rule.read "s/日本/語/x" = .error ⟨none, 7⟩ ∧
      (ReadError.mk none 7).offset "s/日本/語/x" = 13 ∧
      ∃ pre post : String, "s/日本/語/x" = pre ++ post ∧ pre.utf8ByteSize = 13 ∧
        ∃ x r, Rule.read (pre ++ x) = .ok r := by
  have h : Rule.read "s/日本/語/x" = .error ⟨none, 7⟩ := by
    have hr : Reader.rule .top (Reader.skipLayout "s/日本/語/x".toList) =
        .read (.substitute "日本" "語" false) ['x'] :=
      Reader.rule_substitute .top false "日本/語/x".toList
    simp only [Rule.read, hr]
    rfl
  have hoffset : (ReadError.mk none 7).offset "s/日本/語/x" = 13 := by decide
  obtain ⟨-, -, pre, post, hs, hsize, -, hread⟩ := Rule.read_error_place h
  exact ⟨h, hoffset, pre, post, hs, hsize.trans hoffset, hread⟩

end Linewise
