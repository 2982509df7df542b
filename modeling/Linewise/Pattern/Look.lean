/-!
Conditions on a position in a text, which match no character.
-/
namespace Linewise.Pattern

/-- The ways to ask about letters on the two sides of a position. -/
inductive WordEdge
  | boundary
  | notBoundary
  | start
  | stop
  | startHalf
  | stopHalf
deriving DecidableEq, Repr

inductive Look
  | start
  | stop
  | lineStart
  | lineEnd
  /-- Lines end at a carriage return, a line feed, or both together. -/
  | crlfStart
  | crlfEnd
  /-- Letters are those of Unicode, or those of ASCII. -/
  | word (edge : WordEdge) (unicode : Bool)
deriving DecidableEq, Repr

end Linewise.Pattern
