import Linewise.Pattern.Search

/-!
Replacement texts. A dollar sign and a name stand for what a group of the match captured; the name
is as long as it can be, or stands in braces. Two dollar signs are one, and any other dollar sign
stands for itself. A group that took no part leaves nothing.
-/
namespace Linewise.Pattern

inductive Piece
  | char (c : Char)
  | group (index : Nat)
  | named (name : String)
deriving DecidableEq, Repr

namespace Piece

private def isNameChar (c : Char) : Bool := c.isAlphanum || c == '_'

/-- A number is the index of a group; it may have a plus sign, and it must fit in 64 bits. -/
private def ofName (name : List Char) : Piece :=
  let digits : List Char := match name with
    | '+' :: digits => digits
    | digits => digits
  let value := digits.foldl (fun n d => 10 * n + (d.toNat - '0'.toNat)) (0 : Nat)
  if digits ≠ [] ∧ digits.all Char.isDigit ∧ value < 18446744073709551616 then group value
  else named (String.ofList name)

set_option linter.unusedVariables false in
def ofChars (s : List Char) : List Piece :=
  match s with
  | [] => []
  | '$' :: '$' :: s => char '$' :: ofChars s
  | '$' :: s =>
      match s with
      | '{' :: inner =>
          match h : inner.dropWhile (· != '}') with
          | _ :: rest => ofName (inner.takeWhile (· != '}')) :: ofChars rest
          | [] => char '$' :: ofChars ('{' :: inner)
      | s =>
          match s.takeWhile isNameChar with
          | [] => char '$' :: ofChars s
          | name => ofName name :: ofChars (s.dropWhile isNameChar)
  | c :: s => char c :: ofChars s
termination_by s.length
decreasing_by
  · exact Nat.lt_succ_of_le (Nat.le_succ _)
  · have := (List.dropWhile_sublist (l := inner) (· != '}')).length_le
    rw [h, List.length_cons] at this
    simp only [List.length_cons]
    omega
  · exact Nat.lt_succ_self _
  · exact Nat.lt_succ_self _
  · exact Nat.lt_succ_of_le (List.dropWhile_sublist isNameChar).length_le
  · exact Nat.lt_succ_self _

private theorem char_ne_ofName (c : Char) (name : List Char) : char c ≠ ofName name := by
  simp only [ofName]
  split <;> split <;> exact nofun

/-- What a replacement text says besides groups stands in it. -/
theorem mem_of_char_mem_ofChars {c : Char} {s : List Char} (h : char c ∈ ofChars s) : c ∈ s := by
  fun_induction ofChars s with
  | case1 => cases h
  | case2 s ih =>
      obtain h | h := List.mem_cons.1 h
      · exact List.mem_cons.2 (.inl (char.inj h))
      · exact List.mem_cons_of_mem _ (List.mem_cons_of_mem _ (ih h))
  | case3 inner d rest hinner _ ih =>
      obtain h | h := List.mem_cons.1 h
      · exact absurd h (char_ne_ofName c _)
      · have hrest : c ∈ inner.dropWhile (· != '}') := hinner ▸ List.mem_cons_of_mem d (ih h)
        have hmem := (List.dropWhile_sublist _).subset hrest
        exact List.mem_cons_of_mem _ (List.mem_cons_of_mem _ hmem)
  | case6 s _ _ _ ih =>
      obtain h | h := List.mem_cons.1 h
      · exact absurd h (char_ne_ofName c _)
      · exact List.mem_cons_of_mem _ ((List.dropWhile_sublist _).subset (ih h))
  | case4 _ _ _ ih | case5 _ _ _ _ ih | case7 _ _ _ _ ih =>
      obtain h | h := List.mem_cons.1 h
      · exact List.mem_cons.2 (.inl (char.inj h))
      · exact List.mem_cons_of_mem _ (ih h)

end Piece

def Span.chars {n : Nat} (s : Span n) (line : Array Char) : List Char :=
  (line.extract s.start s.stop).toList

def Match.captured {n : Nat} (m : Match n) (line : Array Char) (group : Nat) : List Char :=
  match m.groups[group]? with
  | some (some s) => s.chars line
  | _ => []

def Match.expand {n : Nat} (m : Match n) (line : Array Char) (names : List (String × Nat))
    (pieces : List Piece) : List Char :=
  pieces.flatMap fun
    | .char c => [c]
    | .group index => m.captured line index
    | .named name =>
        match names.lookup name with
        | some index => m.captured line index
        | none => []

/-- The line from a position on, with each match replaced; the matches ascend and lie behind the
position. -/
def splice (line : Array Char) (replace : Match line.size → List Char) (position : Nat) :
    List (Match line.size) → List Char
  | [] => (line.extract position line.size).toList
  | m :: ms =>
      (line.extract position m.whole.start).toList ++
        (replace m ++ splice line replace m.whole.stop ms)

end Linewise.Pattern
