/-!
Matches on a line, and the laws of a search for them. A match is a stretch of the line by its type.
Whatever searches for one finds none before the place where it is asked to start, and counts the
whole match as the first of its groups. The matches of a line, and all that is made of them, rest on
these laws alone.
-/
namespace Linewise.Pattern

/-- A stretch of a line of `n` characters. -/
structure Span (n : Nat) where
  start : Nat
  stop : Nat
  start_le : start ≤ stop
  stop_le : stop ≤ n
deriving DecidableEq, Repr

def Span.isEmpty {n : Nat} (s : Span n) : Bool := s.start == s.stop

/-- The stretch between two positions, if they are in order and on the line. -/
def Span.of? (n start stop : Nat) : Option (Span n) :=
  if h : start ≤ stop ∧ stop ≤ n then some ⟨start, stop, h.1, h.2⟩ else none

/-- A match on a line of `n` characters. -/
structure Match (n : Nat) where
  whole : Span n
  /-- The groups by their index, as far as they took part; group 0 is the whole match. -/
  groups : Array (Option (Span n))

/-- A search for matches, with the laws that it keeps. -/
structure Search where
  /-- The first match that does not start before the place where the search starts. -/
  find? : (text : Array Char) → (start : Nat) →
    Option { m : Match text.size // start ≤ m.whole.start }
  /-- The groups that have names. -/
  names : List (String × Nat)
  groups_zero_of_find? : ∀ {text start m}, find? text start = some m →
    m.1.groups[0]? = some (some m.1.whole)

namespace Search

set_option linter.unusedVariables false in
/-- The matches from a position on, given where the last one ended. A match of no characters right
at the end of the last one does not count; the search goes on one character later. -/
def matchesFrom (s : Search) (text : Array Char) (position : Nat) (ended : Option Nat) :
    List (Match text.size) :=
  match s.find? text position with
  | none => []
  | some ⟨m, h⟩ =>
      if h₁ : m.whole.start = m.whole.stop ∧ ended = some m.whole.stop then
        match s.find? text (position + 1) with
        | none => []
        | some ⟨m', h'⟩ => m' :: matchesFrom s text m'.whole.stop (some m'.whole.stop)
      else m :: matchesFrom s text m.whole.stop (some m.whole.stop)
termination_by 2 * (text.size + 1 - position) + if ended = some position then 0 else 1
decreasing_by
  · have := m'.whole.start_le
    have := m'.whole.stop_le
    split <;> omega
  · have := m.whole.start_le
    have := m.whole.stop_le
    rw [if_pos trivial]
    by_cases hp : position = m.whole.stop
    · have hended : ended ≠ some position :=
        fun hended => h₁ ⟨by omega, by rw [hended, hp]⟩
      rw [if_neg hended]
      omega
    · omega

def allMatches (s : Search) (text : Array Char) : List (Match text.size) :=
  s.matchesFrom text 0 none

end Search

end Linewise.Pattern
