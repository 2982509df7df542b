import Linewise.Unicode.Utf8
import Mathlib.Data.List.TakeDrop

/-!
Byte offsets in texts. A text in UTF-8 can be cut where a character starts and at its end, and
nowhere else; what is asked for at any other offset is refused. The offset of a character by its
number is such a place, and offsets ascend with numbers.
-/
namespace Linewise

/-- The two parts of a text at a byte offset, if a character starts or the text ends there. -/
def splitAtByte? (n : Nat) : List Char → Option (List Char × List Char)
  | [] => if n = 0 then some ([], []) else none
  | c :: s =>
      if n = 0 then some ([], c :: s)
      else if c.utf8Size ≤ n then
        (splitAtByte? (n - c.utf8Size) s).map fun (before, after) => (c :: before, after)
      else none

/-- The stretch of a text between two byte offsets, if they are in order and the text can be cut at
both. -/
def slice? (s : List Char) (start stop : Nat) : Option (List Char) :=
  if start ≤ stop then
    (splitAtByte? start s).bind fun (_, rest) => (splitAtByte? (stop - start) rest).map Prod.fst
  else none

/-- A text with one more character at a byte offset, if the text can be cut there. -/
def insertAtByte? (s : List Char) (n : Nat) (c : Char) : Option (List Char) :=
  (splitAtByte? n s).map fun (before, after) => before ++ c :: after

/-- A text without the character that starts at a byte offset, if one does. -/
def removeAtByte? (s : List Char) (n : Nat) : Option (List Char) :=
  match splitAtByte? n s with
  | some (before, _ :: after) => some (before ++ after)
  | _ => none

theorem splitAtByte?_eq_some_iff {n : Nat} {s before after : List Char} :
    splitAtByte? n s = some (before, after) ↔ s = before ++ after ∧ utf8Size before = n := by
  induction s generalizing n before after with
  | nil =>
      rw [splitAtByte?]
      constructor
      · intro h
        split at h
        · cases h
          exact ⟨rfl, by simp_all⟩
        · cases h
      · rintro ⟨hs, rfl⟩
        obtain ⟨rfl, rfl⟩ := List.append_eq_nil_iff.1 hs.symm
        rfl
  | cons c s ih =>
      have hc := c.utf8Size_pos
      rw [splitAtByte?]
      constructor
      · intro h
        split at h
        · cases h
          exact ⟨rfl, by simp_all⟩
        · split at h
          · obtain ⟨parts, hsplit, heq⟩ := Option.map_eq_some_iff.1 h
            obtain ⟨hs, hn⟩ := ih.1 hsplit
            cases heq
            exact ⟨by rw [hs, List.cons_append], by rw [utf8Size_cons]; omega⟩
          · cases h
      · rintro ⟨hs, rfl⟩
        cases before with
        | nil =>
            rw [List.nil_append] at hs
            rw [hs]
            rfl
        | cons d before =>
            rw [List.cons_append, List.cons.injEq] at hs
            obtain ⟨rfl, rfl⟩ := hs
            rw [utf8Size_cons, if_neg (by omega), if_pos (by omega), Nat.add_sub_cancel_left,
              ih.2 ⟨rfl, rfl⟩, Option.map_some]

theorem splitAtByte?_append (before after : List Char) :
    splitAtByte? (utf8Size before) (before ++ after) = some (before, after) :=
  splitAtByte?_eq_some_iff.2 ⟨rfl, rfl⟩

/-- What comes before a cut of a text ends at a place between two of its characters. -/
theorem isValid_utf8Size (before after : List Char) :
    (String.Pos.Raw.mk (utf8Size before)).IsValid (String.ofList (before ++ after)) := by
  have hsize : utf8Size before = (String.ofList before).utf8ByteSize := by
    rw [← utf8Size_toList, String.toList_ofList]
  rw [String.ofList_append, hsize]
  exact String.Pos.Raw.isValid_iff_exists_append.2 ⟨_, _, rfl, rfl⟩

theorem slice?_append (before inside after : List Char) :
    slice? (before ++ (inside ++ after)) (utf8Size before) (utf8Size before + utf8Size inside) =
      some inside := by
  rw [slice?, if_pos (Nat.le_add_right _ _), splitAtByte?_append, Option.bind_some,
    Nat.add_sub_cancel_left]
  exact congrArg (Option.map Prod.fst) (splitAtByte?_append inside after)

/-- The byte offsets at which the characters of a text start, given that of the first one. -/
def charOffsets (start : Nat) : List Char → List Nat
  | [] => []
  | c :: s => start :: charOffsets (start + c.utf8Size) s

/-- The byte offset of a character, or of the end of the text if there are not so many. -/
def byteIndex (s : List Char) (i : Nat) : Nat := (charOffsets 0 s)[i]?.getD (utf8Size s)

theorem getD_charOffsets (start : Nat) (s : List Char) (i : Nat) :
    (charOffsets start s)[i]?.getD (start + utf8Size s) = start + utf8Size (s.take i) := by
  induction s generalizing start i with
  | nil => simp [charOffsets]
  | cons c s ih =>
      cases i with
      | zero => rfl
      | succ i =>
          rw [charOffsets, List.getElem?_cons_succ, List.take_succ_cons, utf8Size_cons,
            utf8Size_cons, ← Nat.add_assoc, ← Nat.add_assoc, ih]

theorem byteIndex_eq (s : List Char) (i : Nat) : byteIndex s i = utf8Size (s.take i) := by
  have hoffset := getD_charOffsets 0 s i
  rwa [Nat.zero_add, Nat.zero_add] at hoffset

theorem byteIndex_append (before after : List Char) :
    byteIndex (before ++ after) before.length = utf8Size before := by
  rw [byteIndex_eq, List.take_left]

@[simp] theorem byteIndex_zero (s : List Char) : byteIndex s 0 = 0 := by
  rw [byteIndex_eq, List.take_zero, utf8Size_nil]

theorem byteIndex_length (s : List Char) : byteIndex s s.length = utf8Size s := by
  rw [byteIndex_eq, List.take_length]

theorem utf8Size_pos {s : List Char} (h : s ≠ []) : 0 < utf8Size s := by
  obtain ⟨c, s, rfl⟩ := List.exists_cons_of_ne_nil h
  have := c.utf8Size_pos
  rw [utf8Size_cons]
  omega

/-- A stretch has as many bytes as lie between the offsets of its ends. -/
theorem byteIndex_add_extract (s : List Char) {i j : Nat} (hij : i ≤ j) :
    byteIndex s i + utf8Size (s.extract i j) = byteIndex s j := by
  have hj : s.take j = s.take i ++ s.extract i j := by
    rw [List.extract_eq_take_drop, ← List.take_add, Nat.add_sub_cancel' hij]
  rw [byteIndex_eq, byteIndex_eq, hj, utf8Size_append]

theorem byteIndex_le (s : List Char) {i j : Nat} (hij : i ≤ j) :
    byteIndex s i ≤ byteIndex s j := by
  have := byteIndex_add_extract s hij
  omega

theorem byteIndex_lt {s : List Char} {i j : Nat} (hij : i < j) (hj : j ≤ s.length) :
    byteIndex s i < byteIndex s j := by
  have hstretch : s.extract i j ≠ [] := by
    apply List.ne_nil_of_length_pos
    rw [List.extract_eq_take_drop, List.length_take, List.length_drop]
    omega
  have := utf8Size_pos hstretch
  have := byteIndex_add_extract s (Nat.le_of_lt hij)
  omega

theorem byteIndex_le_iff {s : List Char} {i j : Nat} (hi : i ≤ s.length) :
    byteIndex s i ≤ byteIndex s j ↔ i ≤ j := by
  constructor
  · intro h
    by_contra hji
    have := byteIndex_lt (Nat.lt_of_not_le hji) hi
    omega
  · exact byteIndex_le s

theorem byteIndex_max (s : List Char) (i j : Nat) :
    byteIndex s (max i j) = max (byteIndex s i) (byteIndex s j) := by
  obtain h | h := Nat.le_total i j
  · rw [Nat.max_eq_right h, Nat.max_eq_right (byteIndex_le s h)]
  · rw [Nat.max_eq_left h, Nat.max_eq_left (byteIndex_le s h)]

theorem extract_append_drop {α : Type} (s : List α) {i j : Nat} (hij : i ≤ j) :
    s.extract i j ++ s.drop j = s.drop i := by
  have hrest := List.take_append_drop (j - i) (s.drop i)
  rwa [List.drop_drop, Nat.add_sub_cancel' hij, ← List.extract_eq_take_drop] at hrest

/-- Between the offsets of two characters a text can always be cut. -/
theorem slice?_byteIndex {s : List Char} {i j : Nat} (hij : i ≤ j) :
    slice? s (byteIndex s i) (byteIndex s j) = some (s.extract i j) := by
  have hs : s = s.take i ++ (s.extract i j ++ s.drop j) := by
    rw [extract_append_drop s hij, List.take_append_drop]
  have hslice := slice?_append (s.take i) (s.extract i j) (s.drop j)
  rwa [← hs, ← byteIndex_eq, byteIndex_add_extract s hij] at hslice

end Linewise
