import Linewise.Rule.Run

/-!
Sorting by code points. A document is sorted by comparing its lines character by character, and no
other arrangement of them is in this order. Comparing the bytes of texts in UTF-8 gives the same
order: of two different characters the lower one has the lower byte where their encodings first
differ.
-/
namespace Linewise

def codePoints (s : String) : List Nat := s.toList.map Char.toNat

def utf8Bytes (s : String) : List UInt8 := s.toUTF8.data.toList

theorem utf8Bytes_eq (s : String) : utf8Bytes s = s.toList.flatMap String.utf8EncodeChar := by
  rw [utf8Bytes, String.toUTF8_eq_toByteArray, ← String.utf8Encode_toList, List.utf8Encode,
    List.toList_data_toByteArray]

/-- The first text of bytes is below the second by a byte that both of them have. -/
inductive Below : List UInt8 → List UInt8 → Prop
  | here {a b : UInt8} {x y : List UInt8} : a < b → Below (a :: x) (b :: y)
  | later {a : UInt8} {x y : List UInt8} : Below x y → Below (a :: x) (a :: y)

theorem Below.append_lt {x y : List UInt8} (h : Below x y) (u v : List UInt8) :
    x ++ u < y ++ v := by
  induction h with
  | here h => exact List.cons_lt_cons_iff.2 (.inl h)
  | later _ ih => exact List.cons_lt_cons_iff.2 (.inr ⟨rfl, ih⟩)

theorem below_of_lt {a b : Nat} (hab : a < b) (hb : b < 256) (x y : List UInt8) :
    Below (UInt8.ofNat a :: x) (UInt8.ofNat b :: y) :=
  .here ((UInt8.ofNat_lt_iff_lt (Nat.lt_trans hab hb) hb).2 hab)

theorem below_of_le {a b : Nat} {x y : List UInt8} (hab : a ≤ b) (hb : b < 256)
    (h : a = b → Below x y) : Below (UInt8.ofNat a :: x) (UInt8.ofNat b :: y) := by
  obtain rfl | hlt := Nat.eq_or_lt_of_le hab
  · exact .later (h rfl)
  · exact below_of_lt hlt hb x y

/-- A longer encoding starts with a higher byte. In two of the same length the digits to base 64 are
compared from the first one on. -/
theorem below_utf8EncodeChar {c d : Char} (h : c < d) :
    Below (String.utf8EncodeChar c) (String.utf8EncodeChar d) := by
  have hlt : c.val.toNat < d.val.toNat := h
  have hmax : d.val.toNat < 0x110000 := by
    have hvalid := d.valid
    simp only [UInt32.isValidChar, Nat.isValidChar] at hvalid
    omega
  simp only [String.utf8EncodeChar]
  generalize c.val.toNat = n at hlt ⊢
  generalize d.val.toNat = m at hlt hmax ⊢
  by_cases hn₁ : n ≤ 127
  · rw [if_pos hn₁]
    split
    · exact below_of_lt hlt (by omega) _ _
    · split
      · exact below_of_lt (by omega) (by omega) _ _
      · split <;> exact below_of_lt (by omega) (by omega) _ _
  · rw [if_neg hn₁, if_neg (by omega : ¬ m ≤ 127)]
    by_cases hn₂ : n ≤ 2047
    · rw [if_pos hn₂]
      split
      · refine below_of_le (by omega) (by omega) fun _ => ?_
        exact below_of_lt (by omega) (by omega) _ _
      · split <;> exact below_of_lt (by omega) (by omega) _ _
    · rw [if_neg hn₂, if_neg (by omega : ¬ m ≤ 2047)]
      by_cases hn₃ : n ≤ 65535
      · rw [if_pos hn₃]
        split
        · refine below_of_le (by omega) (by omega) fun _ => ?_
          refine below_of_le (by omega) (by omega) fun _ => ?_
          exact below_of_lt (by omega) (by omega) _ _
        · exact below_of_lt (by omega) (by omega) _ _
      · rw [if_neg hn₃, if_neg (by omega : ¬ m ≤ 65535)]
        refine below_of_le (by omega) (by omega) fun _ => ?_
        refine below_of_le (by omega) (by omega) fun _ => ?_
        refine below_of_le (by omega) (by omega) fun _ => ?_
        exact below_of_lt (by omega) (by omega) _ _

theorem flatMap_utf8EncodeChar_lt {s t : List Char} (h : s < t) :
    s.flatMap String.utf8EncodeChar < t.flatMap String.utf8EncodeChar := by
  induction h with
  | @nil c t =>
      obtain ⟨b, x, hc⟩ := List.exists_cons_of_ne_nil (String.utf8EncodeChar_ne_nil (c := c))
      rw [List.flatMap_cons, hc]
      exact List.nil_lt_cons b _
  | rel h =>
      rw [List.flatMap_cons, List.flatMap_cons]
      exact (below_utf8EncodeChar h).append_lt _ _
  | @cons c s t _ ih =>
      rw [List.flatMap_cons, List.flatMap_cons]
      exact List.append_left_lt ih

theorem utf8Bytes_lt {s t : String} (h : s < t) : utf8Bytes s < utf8Bytes t := by
  rw [utf8Bytes_eq, utf8Bytes_eq]
  exact flatMap_utf8EncodeChar_lt h

theorem codePoints_lt {s t : String} (h : s < t) : codePoints s < codePoints t :=
  List.map_lt (fun _ _ hlt => hlt) h

section

variable {α : Type} [LT α] [Std.Asymm (α := α) (· < ·)] {f : String → List α}

/-- What ascends with texts says which of two texts is the lower one. -/
theorem lt_iff_of_ascends (hf : ∀ {s t : String}, s < t → f s < f t) {s t : String} :
    f s < f t ↔ s < t := by
  refine ⟨fun h => String.not_le.1 fun hle => ?_, hf⟩
  by_cases hlt : t < s
  · exact List.lt_asymm h (hf hlt)
  · obtain rfl := String.le_antisymm hle (String.not_lt.1 hlt)
    exact List.lt_asymm h h

end

theorem utf8Bytes_le_iff {s t : String} : utf8Bytes s ≤ utf8Bytes t ↔ s ≤ t := by
  rw [← List.not_lt, ← String.not_lt, lt_iff_of_ascends utf8Bytes_lt]

/-- Whether the lines of a document ascend by code points: none comes after a higher one. Equal lines
may follow one another. -/
def Document.Ascending (d : Document) : Prop :=
  d.Pairwise fun a b => ¬ codePoints b < codePoints a

instance (d : Document) : Decidable d.Ascending :=
  inferInstanceAs (Decidable (d.Pairwise fun a b => ¬ codePoints b < codePoints a))

theorem ascending_iff {d : Document} : d.Ascending ↔ d.Pairwise (· ≤ ·) := by
  simp only [Document.Ascending, lt_iff_of_ascends codePoints_lt, String.not_lt]

theorem perm_sort (d : Document) : (Arrangement.sort.apply d).Perm d :=
  List.mergeSort_perm d _

theorem ascending_sort (d : Document) : (Arrangement.sort.apply d).Ascending := by
  rw [ascending_iff]
  have htrans : ∀ a b c : String, decide (a ≤ b) → decide (b ≤ c) → decide (a ≤ c) :=
    fun _ _ _ hab hbc =>
      decide_eq_true (String.le_trans (of_decide_eq_true hab) (of_decide_eq_true hbc))
  have htotal : ∀ a b : String, decide (a ≤ b) || decide (b ≤ a) :=
    fun a b => by simpa using String.le_total a b
  exact (List.pairwise_mergeSort htrans htotal d).imp of_decide_eq_true

/-- Two arrangements of the same lines that ascend are one. -/
theorem eq_of_ascending {d d' : Document} (hd : d.Ascending) (hd' : d'.Ascending)
    (h : d.Perm d') : d = d' :=
  h.eq_of_pairwise (fun _ _ _ _ => String.le_antisymm) (ascending_iff.1 hd) (ascending_iff.1 hd')

/-- Sorting gives the one arrangement of the lines that ascends by code points, the same for all
arrangements of the same lines. This is the order of the texts by their bytes in UTF-8. -/
theorem Arrangement.sort_by_code_points :
    (∀ d : Document, (sort.apply d).Perm d ∧ (sort.apply d).Ascending ∧
      ∀ d' : Document, d'.Perm d → d'.Ascending → d' = sort.apply d) ∧
    (∀ d d' : Document, d.Perm d' → sort.apply d = sort.apply d') ∧
    (∀ d : Document, sort.apply (reverse.apply d) = sort.apply d ∧
      sort.apply (sort.apply d) = sort.apply d) ∧
    (∀ s t : String, utf8Bytes s < utf8Bytes t ↔ codePoints s < codePoints t) ∧
    ∀ d : Document, sort.apply d = d.mergeSort fun a b => decide (utf8Bytes a ≤ utf8Bytes b) := by
  have hperm : ∀ d d' : Document, d.Perm d' → sort.apply d = sort.apply d' := fun d d' h =>
    eq_of_ascending (ascending_sort d) (ascending_sort d')
      ((perm_sort d).trans (h.trans (perm_sort d').symm))
  refine ⟨fun d => ⟨perm_sort d, ascending_sort d, fun d' h hd' => ?_⟩, hperm, fun d => ⟨?_, ?_⟩,
    fun s t => ?_, fun d => ?_⟩
  · exact eq_of_ascending hd' (ascending_sort d) (h.trans (perm_sort d).symm)
  · exact hperm _ _ (List.reverse_perm d)
  · exact hperm _ _ (perm_sort d)
  · rw [lt_iff_of_ascends utf8Bytes_lt, lt_iff_of_ascends codePoints_lt]
  · simp only [apply, utf8Bytes_le_iff]

/-- Digits, capitals and small letters, a letter of two bytes, and two characters of three and of four
bytes whose code units in UTF-16 would be in the other order. -/
theorem Arrangement.sort_wide_lines :
    sort.apply ["b", "😀", "B", "a", "é", "10", "", "\uffff", "9", "ab"] =
        ["", "10", "9", "B", "a", "ab", "b", "é", "\uffff", "😀"] ∧
      codePoints "\uffff" < codePoints "😀" ∧ utf8Bytes "\uffff" < utf8Bytes "😀" := by
  have h : codePoints "\uffff" < codePoints "😀" := by decide
  exact ⟨((sort_by_code_points.1 _).2.2 _ (by decide) (by decide)).symm, h,
    (sort_by_code_points.2.2.2.1 _ _).2 h⟩

end Linewise
