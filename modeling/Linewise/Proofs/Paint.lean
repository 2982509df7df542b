import Linewise.Paint
import Linewise.Proofs.Unicode.Offset

/-!
Painting adds color and nothing else. The pieces of a painted line make up the line, and a byte is
painted just if it is part of a match, in whatever order the patterns come and however their matches
overlap. The sweep over the matches can be done at byte offsets, where each stretch that it cuts out
starts and ends at places where the line can be cut.
-/
namespace Linewise

theorem Pattern.Span.bytes_eq {line : Array Char} (s : Pattern.Span line.size) :
    s.bytes = (byteIndex line.toList s.start, byteIndex line.toList s.stop) := by
  simp [bytes, byteIndex_eq, Array.toList_extract, List.extract_eq_take_drop]

/-- Whether a byte is part of a stretch. -/
def Pattern.Span.HasByte {line : Array Char} (s : Pattern.Span line.size) (b : Nat) : Prop :=
  s.bytes.1 ≤ b ∧ b < s.bytes.2

theorem Pattern.Span.hasByte_iff {line : Array Char} {s : Pattern.Span line.size} {b : Nat} :
    s.HasByte b ↔ byteIndex line.toList s.start ≤ b ∧ b < byteIndex line.toList s.stop := by
  rw [HasByte, bytes_eq]

theorem Pattern.Span.not_hasByte_before {line : Array Char} {s : Pattern.Span line.size} {b : Nat}
    (h : b < byteIndex line.toList s.start) : ¬ s.HasByte b := by
  rw [hasByte_iff]
  exact fun hb => Nat.not_le_of_lt h hb.1

theorem Pattern.Span.HasByte.not_isEmpty {line : Array Char} {s : Pattern.Span line.size} {b : Nat}
    (h : s.HasByte b) : s.isEmpty = false := by
  rw [hasByte_iff] at h
  rw [isEmpty, beq_eq_false_iff_ne]
  intro hempty
  rw [hempty] at h
  omega

namespace Highlighter

variable {line : Array Char}

/-- The pieces of a line from a byte offset on, with the stretches to paint from left to right. There
is no answer if the line would be cut where it cannot be. -/
def sweep? (line : List Char) (position : Nat) : List (Nat × Nat) → Option (List Piece)
  | [] => do
      let rest ← slice? line position (utf8Size line)
      return [⟨false, rest⟩]
  | (first, stop) :: spans =>
      let start := max first position
      if stop ≤ start then sweep? line position spans
      else do
        let before ← slice? line position start
        let inside ← slice? line start stop
        let rest ← sweep? line stop spans
        return ⟨false, before⟩ :: ⟨true, inside⟩ :: rest

/-- At byte offsets the sweep never fails, and leaves the same pieces. -/
theorem sweep?_eq_piecesFrom (spans : List (Pattern.Span line.size)) {position : Nat}
    (hposition : position ≤ line.size) :
    sweep? line.toList (byteIndex line.toList position) (spans.map Pattern.Span.bytes) =
      some (piecesFrom line position spans) := by
  induction spans generalizing position with
  | nil =>
      rw [List.map_nil, sweep?, ← byteIndex_length, Array.length_toList, slice?_byteIndex hposition]
      simp [piecesFrom]
  | cons s spans ih =>
      rw [List.map_cons, Pattern.Span.bytes_eq, sweep?, piecesFrom]
      simp only [← byteIndex_max, byteIndex_le_iff (show s.stop ≤ line.toList.length from s.stop_le)]
      split
      · exact ih hposition
      · rename_i hstop
        rw [slice?_byteIndex (Nat.le_max_right _ _), slice?_byteIndex (by omega), ih s.stop_le]
        simp

/-- Which bytes of a piece are painted: all or none. -/
def Piece.marks (p : Piece) : List Bool := List.replicate (utf8Size p.chars) p.painted

theorem flatMap_chars_piecesFrom (spans : List (Pattern.Span line.size)) {position : Nat}
    (hposition : position ≤ line.size) :
    (piecesFrom line position spans).flatMap Piece.chars = line.toList.drop position := by
  induction spans generalizing position with
  | nil => simp [piecesFrom, List.extract_eq_take_drop]
  | cons s spans ih =>
      simp only [piecesFrom]
      split
      · exact ih hposition
      · rw [List.flatMap_cons, List.flatMap_cons, ih s.stop_le, Array.toList_extract,
          Array.toList_extract, extract_append_drop _ (by omega),
          extract_append_drop _ (Nat.le_max_right _ _)]

theorem chars_ne_nil_of_mem_piecesFrom {spans : List (Pattern.Span line.size)} {position : Nat}
    {piece : Piece} (hpiece : piece ∈ piecesFrom line position spans) (h : piece.painted = true) :
    piece.chars ≠ [] := by
  induction spans generalizing position with
  | nil =>
      rw [List.mem_singleton.1 hpiece] at h
      cases h
  | cons s spans ih =>
      simp only [piecesFrom] at hpiece
      split at hpiece
      · exact ih hpiece
      · rw [List.mem_cons, List.mem_cons] at hpiece
        obtain rfl | rfl | hpiece := hpiece
        · cases h
        · have := s.stop_le
          apply List.ne_nil_of_length_pos
          simp only [Array.length_toList, Array.size_extract]
          omega
        · exact ih hpiece

/-- A byte from a position on is painted just if one of the stretches behind has it. The sweep may
drop what lies before the position, since the stretches come from left to right. -/
theorem marks_piecesFrom {spans : List (Pattern.Span line.size)}
    (hsorted : spans.Pairwise fun s s' => s.start ≤ s'.start) (position b : Nat) :
    ((piecesFrom line position spans).flatMap Piece.marks)[b]? = some true ↔
      ∃ s ∈ spans, s.HasByte (byteIndex line.toList position + b) := by
  induction spans generalizing position b with
  | nil =>
      simp only [piecesFrom, List.flatMap_singleton, Piece.marks, List.getElem?_replicate]
      split <;> simp
  | cons s spans ih =>
      obtain ⟨hfirst, hrest⟩ := List.pairwise_cons.1 hsorted
      have hstart := byteIndex_max line.toList s.start position
      simp only [piecesFrom, List.mem_cons, exists_eq_or_imp]
      split
      · rename_i hstop
        have hnot : ¬ s.HasByte (byteIndex line.toList position + b) := by
          have := byteIndex_le line.toList hstop
          rw [Pattern.Span.hasByte_iff]
          omega
        rw [ih hrest, or_iff_right hnot]
      · rename_i hstop
        have hbefore := byteIndex_add_extract line.toList (Nat.le_max_right s.start position)
        have hinside := byteIndex_add_extract line.toList (Nat.le_of_lt (Nat.lt_of_not_le hstop))
        simp only [List.flatMap_cons, Piece.marks, Array.toList_extract, List.getElem?_append,
          List.length_replicate, List.getElem?_replicate]
        split
        · -- The byte lies before the first stretch, so before all of them.
          have hlt : byteIndex line.toList position + b < byteIndex line.toList s.start := by omega
          simp only [Option.some.injEq, Bool.false_eq_true, false_iff]
          rintro (h | ⟨s', hs', h⟩)
          · exact Pattern.Span.not_hasByte_before hlt h
          · have hle := byteIndex_le line.toList (hfirst s' hs')
            exact Pattern.Span.not_hasByte_before (Nat.lt_of_lt_of_le hlt hle) h
        · split
          · have hhas : s.HasByte (byteIndex line.toList position + b) := by
              rw [Pattern.Span.hasByte_iff]
              omega
            simp only [true_iff]
            exact .inl hhas
          · have hnot : ¬ s.HasByte (byteIndex line.toList position + b) := by
              rw [Pattern.Span.hasByte_iff]
              omega
            have hindex : byteIndex line.toList s.stop +
                (b - utf8Size (line.toList.extract position (max s.start position)) -
                  utf8Size (line.toList.extract (max s.start position) s.stop)) =
                byteIndex line.toList position + b := by
              omega
            rw [ih hrest, or_iff_right hnot, hindex]

theorem sweep?_pieces (h : Highlighter) (line : String) :
    let spans := h.patterns.flatMap fun p => (p.spans line.toList.toArray).map Pattern.Span.bytes
    sweep? line.toList 0 (spans.mergeSort fun a b => a.1 ≤ b.1) = some (h.pieces line) := by
  intro spans
  have hspans : spans.mergeSort (fun a b => a.1 ≤ b.1) =
      (h.spans line.toList.toArray).map Pattern.Span.bytes := by
    rw [Highlighter.spans, List.map_mergeSort, List.map_flatMap]
    intro s _ s' _
    rw [Pattern.Span.bytes_eq, Pattern.Span.bytes_eq]
    exact decide_eq_decide.2 (byteIndex_le_iff (Nat.le_trans s.start_le s.stop_le)).symm
  have hsweep := sweep?_eq_piecesFrom (h.spans line.toList.toArray) (Nat.zero_le _)
  rwa [byteIndex_zero, ← hspans] at hsweep

theorem flatMap_chars_pieces (h : Highlighter) (line : String) :
    (h.pieces line).flatMap Piece.chars = line.toList := by
  rw [pieces, flatMap_chars_piecesFrom _ (Nat.zero_le _), List.drop_zero]

theorem marks_pieces (h : Highlighter) (line : String) (b : Nat) :
    ((h.pieces line).flatMap Piece.marks)[b]? = some true ↔
      ∃ p ∈ h.patterns, ∃ m ∈ p.matchesOn line.toList.toArray, m.whole.HasByte b := by
  have hsorted : (h.spans line.toList.toArray).Pairwise fun s s' => s.start ≤ s'.start := by
    refine (List.pairwise_mergeSort ?_ ?_ _).imp of_decide_eq_true
    · intro s s' s'' hs hs'
      exact decide_eq_true (Nat.le_trans (of_decide_eq_true hs) (of_decide_eq_true hs'))
    · intro s s'
      simpa using Nat.le_total s.start s'.start
  rw [pieces, marks_piecesFrom hsorted, byteIndex_zero, Nat.zero_add]
  constructor
  · rintro ⟨s, hs, hb⟩
    obtain ⟨p, hp, hs⟩ := List.mem_flatMap.1 (List.mem_mergeSort.1 hs)
    obtain ⟨m, hm, rfl⟩ := List.mem_map.1 (List.mem_filter.1 hs).1
    exact ⟨p, hp, m, hm, hb⟩
  · rintro ⟨p, hp, m, hm, hb⟩
    have hspan : m.whole ∈ p.spans line.toList.toArray :=
      List.mem_filter.2 ⟨List.mem_map_of_mem hm, by simp [hb.not_isEmpty]⟩
    exact ⟨m.whole, List.mem_mergeSort.2 (List.mem_flatMap.2 ⟨p, hp, hspan⟩), hb⟩

theorem paint_false (h : Highlighter) (line : String) : h.paint false line = line := by
  have hrender : ∀ piece : Piece, (piece.render false).toList = piece.chars := by
    intro piece
    simp [Piece.render]
  rw [← String.toList_inj, paint, String.toList_join, List.flatMap_map, ← h.flatMap_chars_pieces]
  exact congrArg (List.flatMap · _) (funext hrender)

/-- A text without the sequences that set colors. Such a sequence starts with an escape and ends with
the next `m`; inside of one nothing is kept. -/
def dropColors (inside : Bool) : List Char → List Char
  | [] => []
  | c :: s =>
      if inside then dropColors (c != 'm') s
      else if c = '\x1B' then dropColors true s
      else c :: dropColors false s

theorem dropColors_append {s : List Char} (hs : '\x1B' ∉ s) (rest : List Char) :
    dropColors false (s ++ rest) = s ++ dropColors false rest := by
  induction s with
  | nil => rfl
  | cons c s ih =>
      rw [List.mem_cons, not_or] at hs
      rw [List.cons_append, dropColors, if_neg Bool.false_ne_true, if_neg (Ne.symm hs.1), ih hs.2,
        List.cons_append]

theorem dropColors_inYellow {s : List Char} (hs : '\x1B' ∉ s) (rest : List Char) :
    dropColors false ((inYellow (String.ofList s)).toList ++ rest) =
      s ++ dropColors false rest := by
  have hyellow : (inYellow (String.ofList s)).toList =
      "\x1B[1;33m".toList ++ (s ++ "\x1B[0m".toList) := by
    simp [inYellow]
  rw [hyellow, List.append_assoc, List.append_assoc]
  calc dropColors false ("\x1B[1;33m".toList ++ (s ++ ("\x1B[0m".toList ++ rest)))
      = dropColors false (s ++ ("\x1B[0m".toList ++ rest)) := rfl
    _ = s ++ dropColors false ("\x1B[0m".toList ++ rest) := dropColors_append hs _
    _ = s ++ dropColors false rest := rfl

theorem dropColors_flatMap {pieces : List Piece}
    (h : '\x1B' ∉ pieces.flatMap Piece.chars) :
    dropColors false (pieces.flatMap fun piece => (piece.render true).toList) =
      pieces.flatMap Piece.chars := by
  induction pieces with
  | nil => rfl
  | cons piece pieces ih =>
      rw [List.flatMap_cons, List.mem_append, not_or] at h
      rw [List.flatMap_cons, List.flatMap_cons, ← ih h.2, Piece.render, Bool.and_true]
      cases piece.painted with
      | true => exact dropColors_inYellow h.1 _
      | false =>
          simp only [Bool.false_eq_true, if_false, String.toList_ofList]
          exact dropColors_append h.1 _

theorem length_flatMap_marks (pieces : List Piece) :
    (pieces.flatMap Piece.marks).length = utf8Size (pieces.flatMap Piece.chars) := by
  induction pieces with
  | nil => rfl
  | cons piece pieces ih =>
      rw [List.flatMap_cons, List.flatMap_cons, List.length_append, utf8Size_append, ih,
        Piece.marks, List.length_replicate]

/-- Painting a line with any patterns only adds color: the line is cut where it can be cut, its
pieces make it up, and a byte is painted just if it is part of a match. Without the colors the line
is as it was. -/
theorem paint_only_adds_color (h : Highlighter) (line : String) :
    let chars := line.toList.toArray
    let spans := h.patterns.flatMap fun p => (p.spans chars).map Pattern.Span.bytes
    let pieces := h.pieces line
    let marks := pieces.flatMap Piece.marks
    sweep? line.toList 0 (spans.mergeSort fun a b => a.1 ≤ b.1) = some pieces ∧
      h.paint true line = String.join (pieces.map fun piece =>
        if piece.painted then inYellow (String.ofList piece.chars)
        else String.ofList piece.chars) ∧
      pieces.flatMap Piece.chars = line.toList ∧ marks.length = utf8Size line.toList ∧
      (∀ b, marks[b]? = some true ↔
        ∃ p ∈ h.patterns, ∃ m ∈ p.matchesOn chars, m.whole.HasByte b) ∧
      (∀ piece ∈ pieces, piece.painted = true → piece.chars ≠ []) ∧
      h.paint false line = line ∧
      ('\x1B' ∉ line.toList → dropColors false (h.paint true line).toList = line.toList) := by
  intro chars spans pieces marks
  have hchars : pieces.flatMap Piece.chars = line.toList := h.flatMap_chars_pieces line
  refine ⟨h.sweep?_pieces line, ?_, hchars, ?_, h.marks_pieces line, ?_, h.paint_false line, ?_⟩
  · rw [paint]
    congr 2
    funext piece
    rw [Piece.render, Bool.and_true]
  · rw [length_flatMap_marks, hchars]
  · intro piece hpiece
    exact chars_ne_nil_of_mem_piecesFrom hpiece
  · intro hline
    rw [paint, String.toList_join, List.flatMap_map, dropColors_flatMap (by rwa [hchars]), hchars]

/-- Matches of two patterns that overlap are painted as two pieces, and each byte once. -/
theorem paint_only_adds_color_overlap :
    let h := Highlighter.ofRules [.keepMatching "b+", .ifMatch "éb" []]
    let line := "xébb"
    h.pieces line = [⟨false, ['x']⟩, ⟨true, ['é', 'b']⟩, ⟨false, []⟩, ⟨true, ['b']⟩, ⟨false, []⟩] ∧
      '\x1B' ∉ line.toList ∧ dropColors false (h.paint true line).toList = line.toList ∧
      ⟨true, ['b']⟩ ∈ h.pieces line ∧ ['b'] ≠ [] := by
  intro h line
  let chars : Array Char := #['x', 'é', 'b', 'b']
  have hspan : (Pattern.compileOrNever "b+").1.spans chars =
      [⟨2, 4, by decide, by decide⟩] := by decide +kernel
  have hspan' : (Pattern.compileOrNever "éb").1.spans chars =
      [⟨1, 3, by decide, by decide⟩] := by decide +kernel
  have hspans :
      h.spans chars = [⟨1, 3, by decide, by decide⟩, ⟨2, 4, by decide, by decide⟩] := by
    simp [h, spans, ofRules, Rule.allSelections, Rule.selections, hspan, hspan', List.mergeSort]
  have hpieces : h.pieces line =
      [⟨false, ['x']⟩, ⟨true, ['é', 'b']⟩, ⟨false, []⟩, ⟨true, ['b']⟩, ⟨false, []⟩] := by
    have hchars : line.toList.toArray = chars := by decide
    rw [pieces, hchars, hspans]
    rfl
  have hescape : '\x1B' ∉ line.toList := by decide
  have hmem : ⟨true, ['b']⟩ ∈ h.pieces line := by
    rw [hpieces]
    decide
  obtain ⟨-, -, -, -, -, hnonempty, -, hcolors⟩ := paint_only_adds_color h line
  exact ⟨hpieces, hescape, hcolors hescape, hmem, hnonempty _ hmem rfl⟩

end Highlighter

end Linewise
