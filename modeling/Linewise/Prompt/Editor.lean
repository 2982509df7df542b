import Linewise.Prompt.Key

/-!
A line of text that is being edited. The cursor stands before a character or at the end, and every
operation keeps it there.
-/
namespace Linewise.Prompt

structure Editor where
  text : List Char
  cursor : Nat
  cursor_le : cursor ≤ text.length
deriving DecidableEq, Repr

namespace Editor

def empty : Editor := ⟨[], 0, Nat.le_refl 0⟩

def insert (e : Editor) (c : Char) : Editor :=
  ⟨e.text.insertIdx e.cursor c, e.cursor + 1, by
    rw [List.length_insertIdx_of_le_length e.cursor_le]
    exact Nat.succ_le_succ e.cursor_le⟩

def backspace (e : Editor) : Editor :=
  if h : 0 < e.cursor then
    ⟨e.text.eraseIdx (e.cursor - 1), e.cursor - 1, by
      have := e.cursor_le
      rw [List.length_eraseIdx_of_lt (by omega)]
      omega⟩
  else e

def delete (e : Editor) : Editor :=
  if h : e.cursor < e.text.length then
    ⟨e.text.eraseIdx e.cursor, e.cursor, by
      rw [List.length_eraseIdx_of_lt h]
      omega⟩
  else e

def left (e : Editor) : Editor :=
  ⟨e.text, e.cursor - 1, by
    have := e.cursor_le
    omega⟩

def right (e : Editor) : Editor :=
  if h : e.cursor < e.text.length then ⟨e.text, e.cursor + 1, h⟩ else e

def toStart (e : Editor) : Editor := ⟨e.text, 0, Nat.zero_le _⟩

def toEnd (e : Editor) : Editor := ⟨e.text, e.text.length, Nat.le_refl _⟩

/-- What a key does to the line. A character is inserted unless a modifier other than shift was
held. -/
def press (e : Editor) (k : Key) : Editor :=
  match k.code with
  | .char c => if k.ctrl ∨ k.alt then e else e.insert c
  | .backspace => e.backspace
  | .delete => e.delete
  | .left => e.left
  | .right => e.right
  | .lineStart => e.toStart
  | .lineEnd => e.toEnd
  | .enter | .escape | .other => e

end Editor

end Linewise.Prompt
