import Linewise.Proofs.Document.Reload
import Linewise.Proofs.Rule.ErrorPlace
import Linewise.Prompt.Session

/-!
The two carets that point at an error. Below the prompt the caret is set by characters, so it stands
under the character where reading stopped. In the message it is set by bytes, so every character before
that place moves it to the right by as many columns as it has bytes. The two agree where only ASCII
comes before the error, and nowhere else.
-/
namespace Linewise

/-- The column of the first caret in a line, counted after an indent. -/
def caretColumn (indent : Nat) (line : List Char) : Nat := line.idxOf '^' - indent

theorem caretColumn_blanks (indent n : Nat) (s : List Char) :
    caretColumn indent (List.replicate (indent + n) ' ' ++ '^' :: s) = n := by
  have h : '^' ∉ List.replicate (indent + n) ' ' := by simp
  simp [caretColumn, List.idxOf_append, h]

theorem utf8Size_eq_one_iff (c : Char) : c.utf8Size = 1 ↔ c.toNat < 0x80 := by
  rw [Char.utf8Size_eq_one_iff, UInt32.le_iff_toNat_le]
  exact Nat.lt_succ_iff.symm

theorem length_le_utf8Size (s : List Char) : s.length ≤ utf8Size s := by
  induction s with
  | nil => exact Nat.le_refl 0
  | cons c s ih =>
      have hc := c.utf8Size_pos
      rw [List.length_cons, utf8Size_cons]
      omega

/-- A text has as many bytes as characters where each of them has one. -/
theorem utf8Size_eq_length_iff (s : List Char) :
    utf8Size s = s.length ↔ ∀ c ∈ s, c.toNat < 0x80 := by
  induction s with
  | nil => simp
  | cons c s ih =>
      have hc := c.utf8Size_pos
      have hs := length_le_utf8Size s
      rw [List.forall_mem_cons, ← ih, ← utf8Size_eq_one_iff, utf8Size_cons, List.length_cons]
      omega

/-- Text without a line break. -/
def OneLine (s : List Char) : Prop := ∀ c ∈ s, c ≠ '\n' ∧ c ≠ '\r'

instance (s : List Char) : Decidable (OneLine s) := List.decidableBAll _ s

theorem OneLine.append {s t : List Char} (hs : OneLine s) (ht : OneLine t) : OneLine (s ++ t) :=
  List.forall_mem_append.2 ⟨hs, ht⟩

theorem Expected.oneLine_description (what : Expected) : OneLine what.description.toList := by
  cases what <;> decide

namespace ReadError

theorem oneLine_reason (e : ReadError) : OneLine e.reason.toList := by
  obtain ⟨what, column⟩ := e
  cases what with
  | none =>
      change OneLine "unexpected character".toList
      decide
  | some what =>
      change OneLine ("expected " ++ what.description).toList
      rw [String.toList_append]
      exact .append (by decide) what.oneLine_description

/-- The lines of a message: the reason, the text, and a caret below it. -/
def messageLines (e : ReadError) (source : String) : Document :=
  ["parse error: " ++ e.reason, "  " ++ source,
    String.ofList (List.replicate (2 + e.offset source) ' ' ++ ['^'])]

theorem ofList_indented_caret (n : Nat) :
    String.ofList (List.replicate (2 + n) ' ' ++ ['^']) =
      "  " ++ (String.ofList (List.replicate n ' ') ++ "^") := by
  have hindent : String.ofList (List.replicate 2 ' ') = "  " := rfl
  have hcaret : String.ofList ['^'] = "^" := rfl
  rw [← List.replicate_append_replicate, List.append_assoc, String.ofList_append,
    String.ofList_append, hindent, hcaret]

theorem toText_messageLines (e : ReadError) (source : String) :
    (e.messageLines source).toText = e.message source := by
  have hbreak : "\n  " = "\n" ++ "  " := rfl
  unfold messageLines message Document.toText
  rewrite [ofList_indented_caret, String.intercalate_cons_cons, String.intercalate_cons_cons,
    String.intercalate_singleton, hbreak]
  simp only [String.append_assoc]

/-- A message about a text of one line has three lines. -/
theorem ofText_message (e : ReadError) {source : String} (hsource : OneLine source.toList) :
    Document.ofText (e.message source) = e.messageLines source := by
  have hlines : ∀ line ∈ e.messageLines source, OneLine line.toList := by
    intro line hline
    simp only [messageLines, List.mem_cons, List.not_mem_nil, or_false] at hline
    obtain rfl | rfl | rfl := hline
    · rw [String.toList_append]
      exact .append (by decide) e.oneLine_reason
    · rw [String.toList_append]
      exact .append (by decide) hsource
    · rw [String.toList_ofList]
      refine .append (fun c hc => ?_) (by decide)
      rw [List.eq_of_mem_replicate hc]
      decide
  have hreloads : (e.messageLines source).Reloads := by
    refine ⟨by simp [messageLines], fun line hline hend => ?_⟩
    exact (hlines line ((List.dropLast_sublist _).subset hline) _ (List.mem_of_getLast? hend)).2 rfl
  rw [← toText_messageLines]
  exact (Document.ofText_toText_eq_iff fun line hline hmem => (hlines line hline _ hmem).1 rfl).2
    hreloads

end ReadError

namespace Prompt

theorem truncate_caret {width n : Nat} (h : n + 3 < width) (s : List Char) :
    ∃ s', truncate width (List.replicate n ' ' ++ '^' :: s) = List.replicate n ' ' ++ '^' :: s' := by
  unfold truncate
  split
  · exact ⟨s, rfl⟩
  · rw [if_pos (by omega)]
    refine ⟨s.take (width - 3 - (n + 1)) ++ ['.', '.', '.'], ?_⟩
    have hn : width - 3 - n = width - 3 - (n + 1) + 1 := by omega
    simp [List.take_append, hn, Nat.min_eq_right (by omega : n ≤ width - 3)]

theorem Session.shown_of_error {s : Session} {source : String} {e : ReadError}
    (hs : s.editor.text = source.toList) (hblank : trimWhite source ≠ [])
    (h : Rule.read source = .error e) :
    s.shown = [.fault (truncate s.window.columns (faultLine e))] := by
  have hpreview : s.preview = .error e := by
    rw [preview, Trial.preview, hs]
    simp only [String.ofList_toList, if_neg hblank, h]
    rfl
  rw [shown, hpreview]
  rfl

end Prompt

open Prompt in
/-- Where a text of one line is no rule, the caret of the message stands after as many columns as
there are bytes before the error, and the one below the prompt after as many as there are
characters. These agree just on ASCII. -/
theorem ReadError.carets {source : String} {e : ReadError} (hsource : OneLine source.toList)
    (h : Rule.read source = .error e) :
    ∃ pre post caret : String, source = pre ++ post ∧ pre.utf8ByteSize = e.offset source ∧
      pre.length = e.column ∧
      Document.ofText (e.message source) = ["parse error: " ++ e.reason, "  " ++ source, caret] ∧
      caretColumn 2 caret.toList = pre.utf8ByteSize ∧
      (∀ s : Session, s.editor.text = source.toList → trimWhite source ≠ [] →
        promptText.length + pre.length + 3 < s.window.columns →
        ∃ row, s.shown = [.fault row] ∧ caretColumn promptText.length row = pre.length) ∧
      (pre.utf8ByteSize = pre.length ↔ ∀ c ∈ pre.toList, c.toNat < 0x80) := by
  obtain ⟨pre, post, hs, hsize, hlength⟩ := Rule.exists_append_of_read_error h
  refine ⟨pre, post, _, hs, hsize, hlength, e.ofText_message hsource, ?_, ?_, ?_⟩
  · rw [String.toList_ofList, hsize]
    exact caretColumn_blanks 2 (e.offset source) []
  · intro s htext hblank hroom
    rw [hlength] at hroom ⊢
    obtain ⟨reason, hrow⟩ := truncate_caret hroom (' ' :: e.reason.toList)
    refine ⟨_, Session.shown_of_error htext hblank h, ?_⟩
    rw [faultLine, hrow]
    exact caretColumn_blanks promptText.length e.column reason
  · rw [← utf8Size_toList, ← String.length_toList]
    exact utf8Size_eq_length_iff pre.toList

/-- The word in the block stands after eight characters, one of which has two bytes. -/
theorem ReadError.carets_in_block :
    let source := "if/ü/ \x7b bogus \x7d"
    let e : ReadError := ⟨some .ruleOrCloseBrace, 8⟩
    let first := Prompt.Session.start ⟨[], none, []⟩ ⟨80, 24, 0⟩
    let session := { first with editor := ⟨source.toList, 8, by decide⟩ }
    OneLine source.toList ∧ Rule.read source = .error e ∧
      (∃ caret, Document.ofText (e.message source) =
        ["parse error: " ++ e.reason, "  " ++ source, caret] ∧ caretColumn 2 caret.toList = 9) ∧
      ∃ row, session.shown = [.fault row] ∧ caretColumn Prompt.promptText.length row = 8 := by
  intro source e first session
  have hsource : OneLine source.toList := by decide
  have hchars : source.toList = ['i', 'f', '/', 'ü', '/', ' ', '{', ' ', 'b', 'o', 'g', 'u', 's',
      ' ', '}'] := by decide
  have hread : Rule.read source = .error e := by
    rw [Rule.read, hchars]
    cbv
  obtain ⟨pre, post, caret, -, hsize, hlength, hlines, hcaret, hprompt, -⟩ :=
    ReadError.carets hsource hread
  have hoffset : e.offset source = 9 := by decide
  have hcolumn : pre.length = 8 := hlength
  obtain ⟨row, hrow, hcaret'⟩ := hprompt session rfl (by decide) (by rw [hcolumn]; decide)
  exact ⟨hsource, hread, ⟨caret, hlines, hcaret.trans (hsize.trans hoffset)⟩, row, hrow,
    hcaret'.trans hcolumn⟩

/-- One letter of two bytes, and the carets part. -/
theorem ReadError.carets_apart :
    let e : ReadError := ⟨some .slash, 3⟩
    OneLine "s/é".toList ∧ Rule.read "s/é" = .error e ∧
      e.offset "s/é" = "s/é".utf8ByteSize ∧ "s/é".length = 3 ∧
      Document.ofText (e.message "s/é") = ["parse error: expected '/'", "  s/é", "      ^"] ∧
      caretColumn 2 "      ^".toList = 4 ∧
      Prompt.faultLine e = "         ^ expected '/'".toList ∧
      caretColumn Prompt.promptText.length (Prompt.faultLine e) = 3 := by
  intro e
  have hchars : "s/é".toList = ['s', '/', 'é'] := by decide
  have hread : Rule.read "s/é" = .error e := by
    rw [Rule.read, hchars]
    cbv
  have hsource : OneLine "s/é".toList := by decide
  have hlines := e.ofText_message hsource
  exact ⟨hsource, hread, by decide, by decide, hlines, by decide, by decide, by decide⟩

end Linewise
