import Std.Data.HashMap
import Linewise.Pattern.Shape

/-!
How much room the two automata of a pattern take. They read bytes, one forwards, marking groups, and
one backwards. A state takes 32 bytes, a way of a choice four more, and a run of bytes that leads out
of a state eight.

A small table remembers states that read one character, so that they can be shared. Which ones it
remembers depends on their numbers, so states are counted in the order in which they come to be.
-/
namespace Linewise.Pattern

/-- The room of the states so far. -/
structure Room where
  states : Nat := 0
  /-- Bytes beyond those that every state takes. -/
  extra : Nat := 0

def Room.bytes (r : Room) : Nat := 32 * r.states + r.extra

/-- The greatest room of an automaton, in bytes. -/
def maxRoom : Nat := 10485760

/-- A piece of an automaton takes room, unless there is not enough left. -/
abbrev Layout := StateT Room Option

inductive Direction
  | forwards
  | backwards
deriving DecidableEq, Repr

/-- What a piece of an automaton ends in. A choice takes one more way to go on when the next piece is
joined to it. -/
inductive Exit
  | plain
  | choice

namespace Layout

private def occupy (r : Room) : Option Room := if r.bytes ≤ maxRoom then some r else none

private def states (count extra : Nat) : Layout Unit := fun r =>
  (occupy ⟨r.states + count, r.extra + extra⟩).map fun r => ((), r)

private def state (extra : Nat) : Layout Nat := fun r =>
  (occupy ⟨r.states + 1, r.extra + extra⟩).map fun r' => (r.states, r')

private def ways (count : Nat) : Layout Unit := states 0 (4 * count)

private def join : Exit → Layout Unit
  | .plain => return ()
  | .choice => ways 1

/-- The key and the number of the state at each place that is taken. -/
private abbrev Table := Std.HashMap Nat (List Nat × Nat)

private abbrev Sharing := StateT Table Layout

private def placeOf (places : Nat) (key : List Nat) : Nat :=
  let mix (h : UInt64) (n : Nat) : UInt64 := (h ^^^ UInt64.ofNat n) * 1099511628211
  (key.foldl mix 14695981039346656037).toNat % places

/-- The state with a key, as far as the table remembers one, or a new one. -/
private def shared (places : Nat) (key : List Nat) (extra : Nat) : Sharing Nat := do
  let place := placeOf places key
  let fresh : Sharing Nat := do
    let n ← liftM (state extra)
    modify fun table => table.insert place (key, n)
    return n
  match (← get)[place]? with
  | some (k, n) => if k == key then return n else fresh
  | none => fresh

/-- A state in the making: what it reads and where that leads, the last one first, and what it reads
besides, which leads to the state in the making below it. -/
private structure Draft where
  edges : List (ByteRun × Nat)
  below : Option ByteRun

private def Draft.close (d : Draft) (next : Nat) : Draft :=
  match d.below with
  | none => d
  | some r => ⟨(r, next) :: d.edges, none⟩

private def Draft.finish (d : Draft) : Sharing Nat :=
  let key := d.edges.reverse.flatMap fun (r, next) => [r.first.toNat, r.last.toNat, next]
  shared 10000 key (8 * d.edges.length)

/-- Finishes states in the making, each below the one before it, the lowest one first. -/
private def finishAll (target : Nat) : List Draft → Sharing Nat
  | [] => return target
  | d :: below => do
      let next ← finishAll target below
      (d.close next).finish

/-- Adds a piece. What it has in common with the piece before it stays in the making. -/
private def addPiece (target : Nat) : List Draft → List ByteRun → Sharing (List Draft)
  | d :: below, r :: rest => do
      if d.below = some r then
        return d :: (← addPiece target below rest)
      else
        let next ← finishAll target below
        return ⟨(d.close next).edges, some r⟩ :: rest.map fun r => ⟨[], some r⟩
  | drafts, _ => return drafts

private def wideForwards (pieces : List (List ByteRun)) : Layout Unit := do
  let target ← state 0
  let build : Sharing Nat := do
    let drafts ← pieces.foldlM (addPiece target) [⟨[], none⟩]
    finishAll target drafts
  let _ ← build.run' {}

private def wideBackwards (pieces : List (List ByteRun)) : Layout Unit := do
  let _ ← state 0
  let target ← state 0
  let step (source : Nat) (r : ByteRun) : Sharing Nat :=
    shared 1000 [source, r.first.toNat, r.last.toNat] 0
  let build : Sharing Unit := pieces.forM fun piece => do
    let _ ← piece.foldlM step target
    liftM (ways 1)
  build.run' {}

/-- The words that go on after each byte, in the order of the bytes' first use. -/
private abbrev Fork := List (UInt8 × List (List UInt8))

private def Fork.add (b : UInt8) (rest : List UInt8) : Fork → Fork
  | [] => [(b, [rest])]
  | (b', rests) :: fork =>
      if b = b' then (b', rest :: rests) :: fork else (b', rests) :: Fork.add b rest fork

/-- The forks before, between and after the words that end here, the last one first. A word that
ends where no other goes on is remembered once. -/
private def forks (found : List Fork) : List (List UInt8) → List Fork
  | [] => found
  | [] :: words =>
      if 1 < found.length && found.all List.isEmpty then forks found words
      else forks ([] :: found) words
  | (b :: rest) :: words =>
      match found with
      | [] => forks [Fork.add b rest []] words
      | fork :: before => forks (Fork.add b rest fork :: before) words

mutual

/-- The room of the tree of words from a place on; rounds exceed the length of every word. A place
where no word goes on takes none. -/
private def wordsRoom : Nat → List (List UInt8) → Room
  | 0, _ => {}
  | rounds + 1, words =>
      let found := forks [[]] words
      if found.all List.isEmpty then {}
      else
        let used := found.filter fun fork => !fork.isEmpty
        let sizes := used.map fun fork => if fork.length = 1 then 0 else 8 * fork.length
        let own : Room :=
          ⟨1 + used.length, 4 * (used.length + (found.length - 1)) + sizes.foldl (· + ·) 0⟩
        used.foldl (fun room fork => forkRoom rounds room fork) own

private def forkRoom : Nat → Room → Fork → Room
  | _, room, [] => room
  | rounds, room, (_, rests) :: fork =>
      let r := wordsRoom rounds rests.reverse
      forkRoom rounds ⟨room.states + r.states, room.extra + r.extra⟩ fork

end

private def copies (piece : Layout Exit) : Nat → Exit → Layout Exit
  | 0, exit => return exit
  | n + 1, exit => do
      let next ← piece
      join exit
      copies piece n next

/-- As many pieces as the number says, one after the other. -/
private def exactly (piece : Layout Exit) : Nat → Layout Exit
  | 0 => do
      states 1 0
      return .plain
  | n + 1 => do copies piece n (← piece)

private def optionals (piece : Layout Exit) : Nat → Exit → Layout Exit
  | 0, exit => return exit
  | n + 1, exit => do
      states 1 0
      let next ← piece
      join exit
      ways 2
      optionals piece n next

private def repetition (piece : Layout Exit) (consumes : Bool) :
    Nat → Option Nat → Layout Exit
  | 0, none => do
      if consumes then
        states 1 0
        join (← piece)
        ways 1
        return .choice
      else
        join (← piece)
        states 3 0
        ways 4
        return .plain
  | 1, none => do
      join (← piece)
      states 1 0
      ways 1
      return .choice
  | n + 2, none => do
      join (← exactly piece (n + 1))
      join (← piece)
      states 1 0
      ways 1
      return .choice
  | 0, some 1 => do
      states 1 0
      join (← piece)
      states 1 0
      ways 2
      return .plain
  | least, some most => do
      let exit ← exactly piece least
      if least = most then return exit
      states 1 0
      join (← optionals piece (most - least) exit)
      return .plain

end Layout

open Layout

mutual

def Shape.layout (d : Direction) : Shape → Layout Exit
  | .row length => do
      states length 0
      return .plain
  | .ascii runs => do
      states 2 (8 * runs)
      return .plain
  | .wide pieces => do
      match d with
      | .forwards => wideForwards pieces
      | .backwards => wideBackwards pieces
      return .plain
  | .words texts => do
      let texts := match d with
        | .forwards => texts
        | .backwards => texts.map List.reverse
      let rounds := texts.foldl (fun n text => max n (text.length + 1)) 0
      let room := wordsRoom rounds texts
      states (room.states + 1) room.extra
      return .plain
  | .repeated body least most consumes => repetition (body.layout d) consumes least most
  | .capture body =>
      match d with
      | .backwards => body.layout d
      | .forwards => do
          states 1 0
          join (← body.layout d)
          states 1 0
          return .plain
  | .concat parts =>
      match d with
      | .forwards => Shape.layoutForwards parts
      | .backwards => Shape.layoutBackwards parts
  | .choice branches => do
      Shape.layoutChoice d 0 branches
      return .plain

def Shape.layoutForwards : List Shape → Layout Exit
  | [] => do
      states 1 0
      return .plain
  | [s] => s.layout .forwards
  | s :: rest => do
      join (← s.layout .forwards)
      Shape.layoutForwards rest

def Shape.layoutBackwards : List Shape → Layout Exit
  | [] => do
      states 1 0
      return .plain
  | [s] => s.layout .backwards
  | s :: rest => do
      join (← Shape.layoutBackwards rest)
      s.layout .backwards

/-- The branches of a choice. The choice itself and its end follow the second branch. -/
def Shape.layoutChoice (d : Direction) : Nat → List Shape → Layout Unit
  | _, [] => return ()
  | n, s :: rest => do
      join (← s.layout d)
      if n = 1 then states 2 0
      ways 1
      Shape.layoutChoice d (n + 1) rest

end

/-- The whole automaton. Unless the pattern is tied to an end of the text, a loop over any bytes
comes before it. -/
private def Expr.layout (d : Direction) (e : Expr) : Layout Unit := do
  let tied := match d with
    | .forwards => e.begins .start
    | .backwards => e.ends .stop
  if tied then states 1 0 else states 3 (8 + 2 * 4)
  join (← (Shape.capture e.shape).layout d)
  states 1 0

/-- The room of the automaton of an expression, in bytes, unless it is more than there may be. -/
def Expr.room? (d : Direction) (e : Expr) : Option Nat :=
  ((Expr.layout d e).run {}).map fun (_, room) => room.bytes

def Expr.fits (e : Expr) : Bool := (e.room? .forwards).isSome && (e.room? .backwards).isSome

end Linewise.Pattern
