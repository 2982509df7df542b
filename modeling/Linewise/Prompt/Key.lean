import Linewise.Unicode.Classes

/-!
Keys, and the characters by which a terminal reports them. A key that makes a character is reported
by it, and a control key or a key with a name by a control character or a sequence that starts with
an escape. Sequences that stand for no key are dropped.
-/
namespace Linewise.Prompt

inductive KeyCode
  | char (c : Char)
  | enter
  | escape
  | backspace
  | delete
  | left
  | right
  | lineStart
  | lineEnd
  /-- Any other key, none of which has a meaning here. -/
  | other
deriving DecidableEq, Repr

structure Key where
  code : KeyCode
  ctrl : Bool := false
  shift : Bool := false
  /-- Alt, or any modifier besides the two above. No key tells these apart. -/
  alt : Bool := false
deriving DecidableEq, Repr

namespace Key

/-- The key that a terminal reports by one character, if that is no escape. -/
def ofChar (c : Char) : Key :=
  match c with
  | '\r' => ⟨.enter, false, false, false⟩
  | '\t' => ⟨.other, false, false, false⟩
  | '\x7F' => ⟨.backspace, false, false, false⟩
  | '\x00' => ⟨.char ' ', true, false, false⟩
  | c =>
      if c.toNat ≤ 0x1A then ⟨.char (Char.ofNat (c.toNat + 0x60)), true, false, false⟩
      else if c.toNat < 0x20 then ⟨.char (Char.ofNat (c.toNat + 0x18)), true, false, false⟩
      else ⟨.char c, false, isUppercase c, false⟩

/-- The key that a letter names at the end of a sequence. Modifiers are not told apart, since no
key with a name heeds them. -/
def named? (c : Char) : Option Key :=
  match c with
  | 'C' => some ⟨.right, false, false, false⟩
  | 'D' => some ⟨.left, false, false, false⟩
  | 'H' => some ⟨.lineStart, false, false, false⟩
  | 'F' => some ⟨.lineEnd, false, false, false⟩
  | 'A' | 'B' | 'P' | 'Q' | 'R' | 'S' => some ⟨.other, false, false, false⟩
  | _ => none

/-- The key that a number names in a sequence. -/
def numbered? (n : Nat) : Option Key :=
  match n with
  | 1 | 7 => some ⟨.lineStart, false, false, false⟩
  | 4 | 8 => some ⟨.lineEnd, false, false, false⟩
  | 3 => some ⟨.delete, false, false, false⟩
  | n =>
      if n = 2 ∨ n = 5 ∨ n = 6 ∨ (11 ≤ n ∧ n ≤ 34 ∧ n ∉ [16, 22, 27, 30]) then
        some ⟨.other, false, false, false⟩
      else none

/-- The key of a bracketed sequence, given its parameters and the character that ends it. A report
of the place of the cursor, which `R` ends, is no key. -/
def sequence? (parameters : List Char) (final : Char) : Option Key :=
  match final with
  | '~' => (String.ofList (parameters.takeWhile (· ≠ ';'))).toNat?.bind numbered?
  | 'Z' => some ⟨.other, false, true, false⟩
  | 'R' => none
  | final => named? final

/-- Whether a character ends a bracketed sequence with parameters. -/
def endsSequence (c : Char) : Bool := 64 ≤ c.toNat && c.toNat ≤ 126

/-- The keys that a terminal reports. An escape is the key of that name where nothing follows it,
and else starts a sequence; two of them are one such key; before any other key it stands for the
modifier. -/
def ofReport : List Char → List Key
  | [] => []
  | ['\x1B'] => [⟨.escape, false, false, false⟩]
  | '\x1B' :: '\x1B' :: s => ⟨.escape, false, false, false⟩ :: ofReport s
  | ['\x1B', 'O'] | ['\x1B', '['] => []
  | '\x1B' :: 'O' :: c :: s => (named? c).toList ++ ofReport s
  | '\x1B' :: '[' :: c :: s =>
      if c.isDigit then
        match h : s.dropWhile fun d => !endsSequence d with
        | [] => []
        | final :: rest =>
            have : rest.length < s.length := by
              have := (List.dropWhile_suffix (fun d => !endsSequence d) (l := s)).length_le
              rw [h, List.length_cons] at this
              omega
            (sequence? (c :: s.takeWhile fun d => !endsSequence d) final).toList ++ ofReport rest
      else (sequence? [] c).toList ++ ofReport s
  | '\x1B' :: c :: s => { ofChar c with alt := true } :: ofReport s
  | c :: s => ofChar c :: ofReport s
termination_by s => s.length

/-- Whether a report may go on: an escape alone, or a sequence without its end. -/
def isUnfinished : List Char → Bool
  | ['\x1B'] | ['\x1B', 'O'] | ['\x1B', '['] => true
  | '\x1B' :: '[' :: c :: s => c.isDigit && !s.any endsSequence
  | _ => false

end Key

end Linewise.Prompt
