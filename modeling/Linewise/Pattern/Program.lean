import Linewise.Pattern.Expr

/-!
Programs: expressions as numbered states, each of which takes a character, checks a condition, marks
the position, or goes on to one of two states. Of two states the first is preferred. A loop over
what may match nothing is entered through a choice of its own, so that an empty round ends it.
-/
namespace Linewise.Pattern

inductive State
  | char (c : Char) (next : Nat)
  | oneOf (set : CodeSet) (next : Nat)
  | look (l : Look) (next : Nat)
  | either (first second : Nat)
  /-- Remembers the position. Slots `2 k` and `2 k + 1` are the ends of group `k`. -/
  | mark (slot next : Nat)
  | accept
deriving Inhabited

structure Program where
  states : Array State
  start : Nat
  /-- The number of groups, the whole match included. -/
  groups : Nat
  names : List (String × Nat)
deriving Inhabited

namespace Program

private def add (s : State) : StateM (Array State) Nat := fun states =>
  (states.size, states.push s)

/-- A preference between a loop's body and what comes after it. -/
private def prefer (greedy : Bool) (body after : Nat) : State :=
  if greedy then .either body after else .either after body

private def addText (chars : List Char) (next : Nat) : StateM (Array State) Nat :=
  chars.foldrM (fun c next => add (.char c next)) next

/-- As many copies as the number says, one after the other. -/
private def copies (body : Nat → StateM (Array State) Nat) (next : Nat) :
    Nat → StateM (Array State) Nat
  | 0 => return next
  | n + 1 => do copies body (← body next) n

/-- Up to that many copies, the last one first; each is entered only after the one before it. -/
private def optionals (body : Nat → StateM (Array State) Nat) (greedy : Bool) (after : Nat) :
    Nat → Nat → StateM (Array State) Nat
  | 0, next => return next
  | n + 1, next => do
      optionals body greedy after n (← add (prefer greedy (← body next) after))

/-- At least one copy. The state that may go round again is returned as well. -/
private def loop (body : Nat → StateM (Array State) Nat) (greedy : Bool) (next : Nat) :
    StateM (Array State) (Nat × Nat) := do
  let again ← add .accept
  let entry ← body again
  modify fun states => states.setIfInBounds again (prefer greedy entry next)
  return (entry, again)

mutual

/-- Adds the states of an expression that go on to `next`, and returns the first of them. -/
def emit : Expr → Nat → StateM (Array State) Nat
  | .empty, next => return next
  | .text chars, next => addText chars next
  | .oneOf set, next => add (.oneOf set next)
  | .look l, next => add (.look l next)
  | .capture k body, next => do
      let close ← add (.mark (2 * k + 1) next)
      let entry ← emit body close
      add (.mark (2 * k) entry)
  | .concat parts, next => emitAll parts next
  | .choice branches, next => emitChoice branches next
  | .repeated body 0 none greedy, next => do
      let (entry, again) ← loop (emit body) greedy next
      if body.consumes then return again
      add (prefer greedy entry next)
  | .repeated body (n + 1) none greedy, next => do
      let (entry, _) ← loop (emit body) greedy next
      copies (emit body) entry n
  | .repeated body least (some most) greedy, next => do
      let rest ← optionals (emit body) greedy next (most - least) next
      copies (emit body) rest least

def emitAll : List Expr → Nat → StateM (Array State) Nat
  | [], next => return next
  | e :: es, next => do
      let rest ← emitAll es next
      emit e rest

def emitChoice : List Expr → Nat → StateM (Array State) Nat
  | [], next => add (.oneOf CodeSet.empty next)
  | [e], next => emit e next
  | e :: es, next => do
      let first ← emit e next
      let others ← emitChoice es next
      add (.either first others)

end

/-- The program of an expression. Group 0 is the whole match. -/
def ofExpr (e : Expr) (names : List (String × Nat)) (groups : Nat) : Program :=
  let build : StateM (Array State) Nat := do
    let accept ← add .accept
    emit (.capture 0 e) accept
  let (start, states) := build.run #[]
  { states, start, groups, names }

end Program

end Linewise.Pattern
