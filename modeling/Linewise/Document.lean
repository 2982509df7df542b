/-!
Documents: sequences of lines, with their text form. Reading drops the ends of lines, a carriage
return before a line feed included; a line feed at the very end starts no further line. Writing puts
one line feed between neighbours.
-/
namespace Linewise

abbrev Document := List String

namespace Document

/-- A line that a line feed ends, given its characters so far, the last one first. -/
def endedLine : List Char → List Char
  | '\r' :: line => line.reverse
  | line => line.reverse

/-- The lines of a text, given the characters of the current one, the last one first. A line that
the text ends, and no line feed, is one only if it has any characters. -/
def linesFrom (line : List Char) : List Char → List (List Char)
  | [] => if line.isEmpty then [] else [line.reverse]
  | c :: s => if c = '\n' then endedLine line :: linesFrom [] s else linesFrom (c :: line) s

def splitLines (s : List Char) : List (List Char) := linesFrom [] s

def ofText (text : String) : Document := (splitLines text.toList).map String.ofList

/-- The lines with one line feed between neighbours. -/
def toText (d : Document) : String := String.intercalate "\n" d

end Document

end Linewise
