import Std.Data.TreeSet
import Linewise.Pattern.Program
import Linewise.Pattern.Search
import Linewise.Unicode.Property

/-!
The search by backtracking. Choices are tried in order of preference and taken back when they lead
nowhere. A pair of state and position that led nowhere once is not tried again, from whatever start,
so the work is bounded by the number of pairs.
-/
namespace Linewise.Pattern

private def isWordAt (unicode : Bool) (text : Array Char) (position : Nat) : Bool :=
  match text[position]? with
  | none => false
  | some c =>
      if c.toNat < 0x80 then c.isAlphanum || c == '_'
      else unicode && Unicode.wordCodes.contains c

/-- Whether a condition holds before the character at a position. -/
def Look.holds (text : Array Char) (position : Nat) : Look → Bool
  | start => position == 0
  | stop => position == text.size
  | lineStart => position == 0 || text[position - 1]? == some '\n'
  | lineEnd => position == text.size || text[position]? == some '\n'
  | crlfStart =>
      position == 0 || text[position - 1]? == some '\n' ||
        (text[position - 1]? == some '\r' && text[position]? != some '\n')
  | crlfEnd =>
      position == text.size || text[position]? == some '\r' ||
        (text[position]? == some '\n' &&
          (position == 0 || text[position - 1]? != some '\r'))
  | word edge unicode =>
      let before := position != 0 && isWordAt unicode text (position - 1)
      let after := isWordAt unicode text position
      match edge with
      | .boundary => before != after
      | .notBoundary => before == after
      | .start => !before && after
      | .stop => before && !after
      | .startHalf => !before
      | .stopHalf => !after

private inductive Job
  | visit (state position : Nat)
  | restore (slot : Nat) (value : Option Nat)

private structure Attempt where
  slots : Array (Option Nat)
  /-- The pairs that were visited, as numbers. -/
  seen : Std.TreeSet Nat

/-- Works through the jobs until a state accepts. -/
private def explore (states : Array State) (text : Array Char) :
    Nat → List Job → Attempt → Bool × Attempt
  | 0, _, a => (false, a)
  | _, [], a => (false, a)
  | fuel + 1, .restore slot value :: jobs, a =>
      explore states text fuel jobs { a with slots := a.slots.setIfInBounds slot value }
  | fuel + 1, .visit state position :: jobs, a =>
      let pair := state * (text.size + 1) + position
      if a.seen.contains pair then explore states text fuel jobs a
      else
        let a := { a with seen := a.seen.insert pair }
        match states[state]? with
        | none => explore states text fuel jobs a
        | some .accept => (true, a)
        | some (.char c next) =>
            if text[position]? == some c then
              explore states text fuel (.visit next (position + 1) :: jobs) a
            else explore states text fuel jobs a
        | some (.oneOf set next) =>
            if text[position]?.any set.contains then
              explore states text fuel (.visit next (position + 1) :: jobs) a
            else explore states text fuel jobs a
        | some (.look l next) =>
            if l.holds text position then
              explore states text fuel (.visit next position :: jobs) a
            else explore states text fuel jobs a
        | some (.either first second) =>
            explore states text fuel (.visit first position :: .visit second position :: jobs) a
        | some (.mark slot next) =>
            let old := a.slots.getD slot none
            let a := { a with slots := a.slots.setIfInBounds slot (some position) }
            explore states text fuel (.visit next position :: .restore slot old :: jobs) a

private def spanOfSlots (n : Nat) (slots : Array (Option Nat)) (group : Nat) :
    Option (Span n) :=
  match slots[2 * group]?, slots[2 * group + 1]? with
  | some (some start), some (some stop) => Span.of? n start stop
  | _, _ => none

/-- The match in the slots, if it starts where it should. -/
private def matchOfSlots (n start groups : Nat) (slots : Array (Option Nat)) :
    Option { m : Match n // start ≤ m.whole.start } :=
  match spanOfSlots n slots 0 with
  | none => none
  | some whole =>
      if h : start ≤ whole.start then
        some ⟨⟨whole, (Array.range groups).map (spanOfSlots n slots)⟩, h⟩
      else none

private theorem size_slots_explore (states : Array State) (text : Array Char) (fuel : Nat)
    (jobs : List Job) (a : Attempt) :
    (explore states text fuel jobs a).2.slots.size = a.slots.size := by
  fun_induction explore states text fuel jobs a
  case case1 | case2 | case6 => rfl
  case case3 ih | case14 ih => rw [ih, Array.size_setIfInBounds]
  case case4 ih | case5 ih | case7 ih | case8 ih | case9 ih | case10 ih | case11 ih | case12 ih |
      case13 ih => exact ih

private theorem groups_zero_of_matchOfSlots {n start groups : Nat} {slots : Array (Option Nat)}
    (hslots : slots.size = 2 * groups) {m : { m : Match n // start ≤ m.whole.start }}
    (h : matchOfSlots n start groups slots = some m) :
    m.1.groups[0]? = some (some m.1.whole) := by
  rw [matchOfSlots] at h
  split at h
  · cases h
  · rename_i whole hwhole
    have hgroups : 0 < groups := by
      simp only [spanOfSlots] at hwhole
      split at hwhole
      · rename_i _ hstop
        have := (Array.getElem?_eq_some_iff.1 hstop).1
        omega
      · cases hwhole
    split at h
    · cases h
      simp [hgroups, hwhole]
    · cases h

namespace Program

private def findLoop (p : Program) (text : Array Char) (start : Nat) :
    Nat → Nat → Attempt → Option { m : Match text.size // start ≤ m.whole.start }
  | 0, _, _ => none
  | count + 1, position, a =>
      let fuel := 4 * p.states.size * (text.size + 1) + 2
      match explore p.states text fuel [.visit p.start position] a with
      | (true, a) => matchOfSlots text.size start p.groups a.slots
      | (false, a) => findLoop p text start count (position + 1) a

/-- The leftmost match that does not start before `start`, and of those that start there the one
that the pattern prefers. -/
def find? (p : Program) (text : Array Char) (start : Nat) :
    Option { m : Match text.size // start ≤ m.whole.start } :=
  findLoop p text start (text.size + 1 - start) start
    { slots := Array.replicate (2 * p.groups) none, seen := {} }

private theorem groups_zero_of_findLoop {p : Program} {text : Array Char} {start count position : Nat}
    {a : Attempt} (ha : a.slots.size = 2 * p.groups)
    {m : { m : Match text.size // start ≤ m.whole.start }}
    (h : findLoop p text start count position a = some m) :
    m.1.groups[0]? = some (some m.1.whole) := by
  induction count generalizing position a with
  | zero => cases h
  | succ count ih =>
      simp only [findLoop] at h
      have hsize := size_slots_explore p.states text (4 * p.states.size * (text.size + 1) + 2)
        [.visit p.start position] a
      split at h
      · rename_i hexplore
        rw [hexplore] at hsize
        exact groups_zero_of_matchOfSlots (hsize.trans ha) h
      · rename_i hexplore
        rw [hexplore] at hsize
        exact ih (hsize.trans ha) h

/-- The search that tries the choices of a program in order of preference. -/
def search (p : Program) : Search where
  find? := p.find?
  names := p.names
  groups_zero_of_find? h := groups_zero_of_findLoop Array.size_replicate h

end Program

end Linewise.Pattern
