import Linewise.Prompt.Session
import Linewise.Proofs.Unicode.Offset
import Mathlib.Algebra.Ring.Parity

/-!
Editing a line. A text with a cursor in it is two stacks of characters, one on each side of the
cursor, and each key moves characters on and off their tops or does nothing. The same line can be
kept in UTF-8 and edited at byte offsets, which are always places where the text can be cut.
-/
namespace Linewise.Prompt

/-- The characters on the two sides of a cursor, each side in the order of the text. -/
structure Stacks where
  left : List Char
  right : List Char
deriving DecidableEq, Repr

namespace Stacks

def empty : Stacks := ⟨[], []⟩

def press (t : Stacks) (k : Key) : Stacks :=
  match k.code with
  | .char c => if k.ctrl ∨ k.alt then t else ⟨t.left ++ [c], t.right⟩
  | .backspace => ⟨t.left.dropLast, t.right⟩
  | .delete => ⟨t.left, t.right.tail⟩
  | .left => ⟨t.left.dropLast, t.left.getLast?.toList ++ t.right⟩
  | .right => ⟨t.left ++ t.right.head?.toList, t.right.tail⟩
  | .lineStart => ⟨[], t.left ++ t.right⟩
  | .lineEnd => ⟨t.left ++ t.right, []⟩
  | .enter | .escape | .other => t

/-- The line that two stacks stand for. -/
def editor (t : Stacks) : Editor :=
  ⟨t.left ++ t.right, t.left.length, by
    rw [List.length_append]
    exact Nat.le_add_right _ _⟩

theorem exists_editor_eq (e : Editor) : ∃ t : Stacks, t.editor = e := by
  obtain ⟨text, cursor, hcursor⟩ := e
  refine ⟨⟨text.take cursor, text.drop cursor⟩, ?_⟩
  simp [editor, hcursor]

section

variable (l r : List Char) (c : Char)

theorem editor_insert : (editor ⟨l, r⟩).insert c = editor ⟨l ++ [c], r⟩ := by
  have htext : (l ++ r).insertIdx l.length c = l ++ [c] ++ r := by
    induction l with
    | nil => rfl
    | cons d l ih => simpa using ih
  simp [Editor.insert, editor, htext]

theorem editor_backspace : (editor ⟨l, r⟩).backspace = editor ⟨l.dropLast, r⟩ := by
  obtain rfl | ⟨l, c, rfl⟩ := l.eq_nil_or_concat
  · rfl
  · simp [Editor.backspace, editor, List.eraseIdx_append_of_length_le]

theorem editor_delete : (editor ⟨l, r⟩).delete = editor ⟨l, r.tail⟩ := by
  cases r with
  | nil => simp [Editor.delete, editor]
  | cons c r => simp [Editor.delete, editor, List.eraseIdx_append_of_length_le]

theorem editor_left :
    (editor ⟨l, r⟩).left = editor ⟨l.dropLast, l.getLast?.toList ++ r⟩ := by
  obtain rfl | ⟨l, c, rfl⟩ := l.eq_nil_or_concat
  · rfl
  · simp [Editor.left, editor]

theorem editor_right : (editor ⟨l, r⟩).right = editor ⟨l ++ r.head?.toList, r.tail⟩ := by
  cases r with
  | nil => simp [Editor.right, editor]
  | cons c r => simp [Editor.right, editor]

end

/-- A key does to the line what it does to the stacks. -/
theorem editor_press (t : Stacks) (k : Key) : t.editor.press k = (t.press k).editor := by
  obtain ⟨l, r⟩ := t
  simp only [Editor.press, press]
  cases k.code with
  | char c =>
      dsimp only
      split
      · rfl
      · exact editor_insert l r c
  | backspace => exact editor_backspace l r
  | delete => exact editor_delete l r
  | left => exact editor_left l r
  | right => exact editor_right l r
  | lineStart => simp [Editor.toStart, editor]
  | lineEnd => simp [Editor.toEnd, editor]
  | enter | escape | other => rfl

end Stacks

/-- A line that is edited at byte offsets, with the form of the output. The cursor still counts
characters. -/
structure Buffer where
  text : List Char
  cursor : Nat
  json : Bool
deriving DecidableEq, Repr

/-- What a key leaves of a line and what it asks for. There is no answer if a character would be put
in or taken out at an offset where that cannot be done. -/
def Buffer.press? (b : Buffer) (k : Key) : Option (Buffer × Action) :=
  if k.isControl 'c' ∨ k.code = .escape then some (b, .cancel)
  else if k.isControl 'j' then some ({ b with json := !b.json }, .go)
  else match k.code with
    | .enter => some (b, .commit)
    | .backspace =>
        if 0 < b.cursor then
          (removeAtByte? b.text (byteIndex b.text (b.cursor - 1))).map fun text =>
            ({ b with text, cursor := b.cursor - 1 }, .go)
        else some (b, .go)
    | .delete =>
        if b.cursor < b.text.length then
          (removeAtByte? b.text (byteIndex b.text b.cursor)).map fun text => ({ b with text }, .go)
        else some (b, .go)
    | .left => some ({ b with cursor := b.cursor - 1 }, .go)
    | .right =>
        some (if b.cursor < b.text.length then { b with cursor := b.cursor + 1 } else b, .go)
    | .lineStart => some ({ b with cursor := 0 }, .go)
    | .lineEnd => some ({ b with cursor := b.text.length }, .go)
    | .char c =>
        if k.ctrl ∨ k.alt then some (b, .go)
        else (insertAtByte? b.text (byteIndex b.text b.cursor) c).map fun text =>
          ({ b with text, cursor := b.cursor + 1 }, .go)
    | .escape | .other => some (b, .go)

/-- What keys leave of a line, one after the other, commits and cancellations passed over. -/
def Buffer.pressAll? (b : Buffer) (keys : List Key) : Option Buffer :=
  keys.foldlM (fun b k => (b.press? k).map Prod.fst) b

section

variable (l r : List Char) (c : Char)

theorem insertAtByte?_cursor :
    insertAtByte? (l ++ r) (byteIndex (l ++ r) l.length) c = some (l ++ c :: r) := by
  rw [insertAtByte?, byteIndex_append, splitAtByte?_append]
  rfl

theorem removeAtByte?_cursor :
    removeAtByte? (l ++ c :: r) (byteIndex (l ++ c :: r) l.length) = some (l ++ r) := by
  rw [removeAtByte?, byteIndex_append, splitAtByte?_append]

end

/-- The line of a session. -/
def Session.buffer (s : Session) : Buffer := ⟨s.editor.text, s.editor.cursor, s.json⟩

theorem Key.isControl_iff {k : Key} {letter : Char} :
    k.isControl letter = true ↔
      k.code = .char letter ∧ k.ctrl = true ∧ k.shift = false ∧ k.alt = false := by
  simp [isControl, and_assoc]

theorem Key.isControl_of_ne {k : Key} {letter : Char} (h : k.code ≠ .char letter) :
    k.isControl letter = false := by
  rw [Bool.eq_false_iff]
  intro hcontrol
  exact h (isControl_iff.1 hcontrol).1

theorem Key.isControl_of_isControl {k : Key} {letter other : Char} (h : k.isControl letter = true)
    (hne : letter ≠ other) : k.isControl other = false := by
  apply isControl_of_ne
  rw [(isControl_iff.1 h).1]
  intro heq
  cases heq
  exact hne rfl

/-- No key asks for an offset at which the line cannot be edited. -/
theorem Session.press?_buffer (s : Session) (k : Key) :
    s.buffer.press? k = some ((s.press k).buffer, k.action) := by
  obtain ⟨⟨l, r⟩, ht⟩ := Stacks.exists_editor_eq s.editor
  have hbefore : s.buffer = ⟨l ++ r, l.length, s.json⟩ := by
    rw [buffer, ← ht]
    rfl
  have hafter : (s.press k).buffer =
      ⟨(Stacks.press ⟨l, r⟩ k).left ++ (Stacks.press ⟨l, r⟩ k).right,
        (Stacks.press ⟨l, r⟩ k).left.length, s.json ^^ k.isControl 'j'⟩ := by
    rw [press, buffer, ← ht, Stacks.editor_press]
    rfl
  have hnamed : (∀ c, k.code ≠ .char c) → ∀ letter, k.isControl letter = false :=
    fun h letter => Key.isControl_of_ne (h letter)
  rw [hbefore, hafter, Buffer.press?, Stacks.press, Key.action]
  cases hcode : k.code with
  | char c =>
      by_cases hmodified : k.ctrl ∨ k.alt
      · by_cases hcancel : k.isControl 'c'
        · have hjson : k.isControl 'j' = false := Key.isControl_of_isControl hcancel (by decide)
          simp [hcancel, hjson, hmodified]
        · cases hjson : k.isControl 'j' <;> simp [hcancel, hmodified]
      · have hplain : ∀ letter, k.isControl letter = false := by
          intro letter
          rw [Bool.eq_false_iff]
          intro hcontrol
          exact hmodified (.inl (Key.isControl_iff.1 hcontrol).2.1)
        simp [hplain, hmodified, insertAtByte?_cursor]
  | backspace =>
      obtain rfl | ⟨l, c, rfl⟩ := l.eq_nil_or_concat
      · simp [hnamed, hcode]
      · simp [hnamed, hcode, removeAtByte?_cursor]
  | delete =>
      cases r with
      | nil => simp [hnamed, hcode]
      | cons c r => simp [hnamed, hcode, removeAtByte?_cursor]
  | left =>
      obtain rfl | ⟨l, c, rfl⟩ := l.eq_nil_or_concat
      · simp [hnamed, hcode]
      · simp [hnamed, hcode]
  | right =>
      cases r with
      | nil => simp [hnamed, hcode]
      | cons c r => simp [hnamed, hcode]
  | lineStart | lineEnd | enter | escape | other => simp [hnamed, hcode]

section

variable (s : Session)

theorem Session.foldl_press_editor (keys : List Key) (t : Stacks) (h : s.editor = t.editor) :
    (keys.foldl Session.press s).editor = (keys.foldl Stacks.press t).editor := by
  induction keys generalizing s t with
  | nil => exact h
  | cons k keys ih =>
      apply ih
      rw [Session.press, h, Stacks.editor_press]

theorem Session.pressAll?_buffer (keys : List Key) :
    s.buffer.pressAll? keys = some (keys.foldl Session.press s).buffer := by
  induction keys generalizing s with
  | nil => rfl
  | cons k keys ih =>
      rw [Buffer.pressAll?, List.foldlM_cons, Session.press?_buffer]
      exact ih (s.press k)

theorem Session.foldl_press_json (keys : List Key) :
    (keys.foldl Session.press s).json =
      (s.json ^^ decide (Odd (keys.countP (·.isControl 'j')))) := by
  induction keys generalizing s with
  | nil => simp
  | cons k keys ih =>
      rw [List.foldl_cons, ih, Session.press, List.countP_cons]
      cases k.isControl 'j' with
      | false => simp
      | true =>
          rw [if_pos rfl, decide_eq_decide.2 Nat.odd_add_one, decide_not, Bool.xor_true,
            Bool.not_xor, Bool.xor_not]

theorem Session.foldl_press_frame (keys : List Key) :
    let s' := keys.foldl Session.press s
    s' = { s with editor := s'.editor, json := s'.json } := by
  induction keys generalizing s with
  | nil => rfl
  | cons k keys ih => exact ih (s.press k)

theorem Session.press_eq_self {k : Key} (h : k.action ≠ .go) : s.press k = s := by
  have hcode : k.code = .escape ∨ k.isControl 'c' = true ∨ k.code = .enter := by
    by_contra hgo
    obtain ⟨hescape, hcancel, hcommit⟩ := by simpa only [not_or] using hgo
    exact h (by rw [Key.action, if_neg (not_or.2 ⟨hescape, hcancel⟩), if_neg hcommit])
  have hjson : k.isControl 'j' = false := by
    obtain hcode | hcancel | hcode := hcode
    · exact Key.isControl_of_ne (by simp [hcode])
    · exact Key.isControl_of_isControl hcancel (by decide)
    · exact Key.isControl_of_ne (by simp [hcode])
  have heditor : s.editor.press k = s.editor := by
    obtain hcode | hcancel | hcode := hcode
    · rw [Editor.press, hcode]
    · obtain ⟨hcode, hctrl, -⟩ := Key.isControl_iff.1 hcancel
      rw [Editor.press, hcode, hctrl]
      rfl
    · rw [Editor.press, hcode]
  rw [press, heditor, hjson, Bool.xor_false]

end

/-- Whatever keys are pressed, the line is that of the two stacks, with the cursor between them, and
editing at byte offsets never fails. The form of the output has changed if its key was pressed an
odd number of times, and nothing else changes. -/
theorem Session.press_refines_stacks (trial : Trial) (window : Window) (keys : List Key) :
    let fresh := Session.start trial window
    let s := keys.foldl Session.press fresh
    let t := keys.foldl Stacks.press Stacks.empty
    s.editor.text = t.left ++ t.right ∧ s.editor.cursor = t.left.length ∧
      s.editor.cursor ≤ s.editor.text.length ∧
      fresh.buffer.pressAll? keys = some s.buffer ∧
      (s.json = true ↔ Odd (keys.countP fun k => k.isControl 'j')) ∧
      s = { fresh with editor := s.editor, json := s.json } ∧
      ∀ k, s.buffer.press? k = some ((s.press k).buffer, k.action) ∧
        (k.action = .go ∨ s.press k = s) ∧ (s.press k).json = (s.json ^^ k.isControl 'j') := by
  intro fresh s t
  have heditor : s.editor = t.editor := Session.foldl_press_editor fresh keys Stacks.empty rfl
  refine ⟨?_, ?_, s.editor.cursor_le, Session.pressAll?_buffer fresh keys, ?_,
    Session.foldl_press_frame fresh keys, ?_⟩
  · rw [heditor]
    rfl
  · rw [heditor]
    rfl
  · rw [Session.foldl_press_json fresh keys]
    simp [fresh, Session.start]
  · intro k
    refine ⟨Session.press?_buffer s k, ?_, rfl⟩
    by_cases h : k.action = .go
    · exact .inl h
    · exact .inr (Session.press_eq_self s h)

/-- The cursor counts characters, and a character may have several bytes. -/
example : (⟨[], 0, false⟩ : Buffer).pressAll?
    [⟨.char 'é', false, false, false⟩, ⟨.char 'X', false, true, false⟩,
      ⟨.escape, false, false, false⟩, ⟨.left, false, false, false⟩,
      ⟨.char 'j', true, false, false⟩, ⟨.backspace, false, false, false⟩] =
    some ⟨['X'], 0, true⟩ := by
  decide

end Linewise.Prompt
