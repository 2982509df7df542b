import Linewise.Document
import Linewise.Pattern.Error

/-!
The report of a fault in a pattern. It shows the pattern with marks under the stretches that the
fault is about. A pattern of several lines is shown between rulers, its lines numbered, and a stretch
that goes beyond the end of a line is told by the numbers of its lines and columns.
-/
namespace Linewise.Pattern

/-- A place by its line and column, both counted from 1. -/
structure Position where
  line : Nat
  column : Nat
deriving DecidableEq, Repr

/-- The position behind some text. -/
def Position.after (s : List Char) : Position :=
  ⟨s.count '\n' + 1, (s.reverse.takeWhile (· != '\n')).length + 1⟩

/-- The positions at the two ends of a stretch. -/
def Stretch.ends (source : List Char) (s : Stretch) : Position × Position :=
  let position (rest : List Char) := Position.after (source.take (source.length - rest.length))
  (position s.start, position s.stop)

private def blanks (n : Nat) : String := String.ofList (List.replicate n ' ')

/-- Marks under the columns of stretches from left to right; an empty stretch has a mark as well. -/
private def marks (column : Nat) : List (Position × Position) → String
  | [] => ""
  | (first, stop) :: ends =>
      let width := max 1 (stop.column - first.column)
      blanks (first.column - column) ++ String.ofList (List.replicate width '^') ++
        marks (max column first.column + width) ends

/-- The lines of a pattern from the one of a number on, with marks under the stretches. The numbers
have that many digits, or are left out if there are none. -/
private def marked (digits : Nat) (ends : List (Position × Position)) (number : Nat) :
    List String → List String
  | [] => []
  | line :: lines =>
      let shown := toString number
      let margin :=
        if digits = 0 then blanks 4 else blanks (digits - shown.length) ++ shown ++ ": "
      let here := ends.filter fun (first, _) => first.line = number
      let notes := if here.isEmpty then [] else [blanks margin.length ++ marks 1 here]
      (margin ++ line) :: (notes ++ marked digits ends (number + 1) lines)

private def crossing (ends : Position × Position) : String :=
  let (first, stop) := ends
  "on line " ++ toString first.line ++ " (column " ++ toString first.column ++ ") through line " ++
    toString stop.line ++ " (column " ++ toString (stop.column - 1) ++ ")"

/-- The lines of a report, given the stretches from left to right. -/
def Fault.report (fault : Fault) (source : String) (stretches : List Stretch) : List String :=
  let ends := stretches.map (Stretch.ends source.toList)
  let (within, across) := ends.partition fun (first, stop) => first.line = stop.line
  let last := "error: " ++ fault.text
  if source.toList.contains '\n' then
    let ruler := String.ofList (List.replicate 79 '~')
    let digits := (toString (Position.after source.toList).line).length
    ["regex parse error:", ruler] ++ marked digits within 1 (Document.ofText source) ++ [ruler] ++
      across.map crossing ++ [last]
  else ["regex parse error:"] ++ marked 0 within 1 (Document.ofText source) ++ [last]

end Linewise.Pattern

namespace Linewise

/-- What is wrong with a pattern, told to its author. -/
def PatternError.message (e : PatternError) (source : String) : String :=
  match e with
  | faulty fault place earlier =>
      String.intercalate "\n" (fault.report source (earlier.toList ++ [place]))
  | tooLarge => "Compiled regex exceeds size limit of 10485760 bytes."

end Linewise
