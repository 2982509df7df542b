import Linewise.Rule.Run

/-!
Painting: the stretches of a line that the selections of the rules match are set off in color. A
painted line is a sequence of pieces. Where stretches overlap, the later one is a piece of its own
that starts where the earlier one ends, so each character is painted once.
-/
namespace Linewise

mutual

/-- The patterns with which a rule selects lines, those of its blocks included. The pattern of a
substitution selects nothing. -/
def Rule.selections : Rule String → List String
  | .keepMatching source => [source]
  | .ifMatch source body => source :: Rule.allSelections body
  | .between start stop body => start :: stop :: Rule.allSelections body
  | .onStatus _ body otherwise => Rule.allSelections body ++ Rule.allSelections otherwise
  | _ => []

def Rule.allSelections : List (Rule String) → List String
  | [] => []
  | r :: rs => r.selections ++ Rule.allSelections rs

end

structure Highlighter where
  patterns : List Pattern

structure Highlighter.Piece where
  painted : Bool
  chars : List Char
deriving DecidableEq, Repr

namespace Highlighter

def ofRules (rules : List (Rule String)) : Highlighter :=
  ⟨(Rule.allSelections rules).map fun source => (Pattern.compileOrNever source).1⟩

def isEmpty (h : Highlighter) : Bool := h.patterns.isEmpty

/-- All stretches to paint, from left to right. -/
def spans (h : Highlighter) (line : Array Char) : List (Pattern.Span line.size) :=
  (h.patterns.flatMap fun p => p.spans line).mergeSort fun a b => a.start ≤ b.start

/-- The pieces of a line from a position on. What an earlier stretch has painted is not painted
again. -/
def piecesFrom (line : Array Char) (position : Nat) :
    List (Pattern.Span line.size) → List Piece
  | [] => [⟨false, (line.extract position line.size).toList⟩]
  | s :: rest =>
      let start := max s.start position
      if s.stop ≤ start then piecesFrom line position rest
      else
        ⟨false, (line.extract position start).toList⟩ ::
          ⟨true, (line.extract start s.stop).toList⟩ :: piecesFrom line s.stop rest

def pieces (h : Highlighter) (line : String) : List Piece :=
  let chars := line.toList.toArray
  piecesFrom chars 0 (h.spans chars)

end Highlighter

def inYellow (s : String) : String := "\x1B[1;33m" ++ s ++ "\x1B[0m"

def inRed (s : String) : String := "\x1B[1;31m" ++ s ++ "\x1B[0m"

def Highlighter.Piece.render (colored : Bool) (p : Highlighter.Piece) : String :=
  let s := String.ofList p.chars
  if p.painted && colored then inYellow s else s

/-- A line as it is printed, with or without color. -/
def Highlighter.paint (h : Highlighter) (colored : Bool) (line : String) : String :=
  String.join ((h.pieces line).map (Highlighter.Piece.render colored))

end Linewise
