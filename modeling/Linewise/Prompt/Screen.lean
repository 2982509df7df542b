import Linewise.Json.Text
import Linewise.Prompt.Editor
import Linewise.Prompt.Trial

/-!
The screen below a prompt. The row of the prompt shows the edited rule, and the rows below it show
the output that the rule leads to, or what is wrong with the rule. A drawing starts on the row of
the prompt and ends there, at the cursor of the editor, so the next one only has to know how many
rows the last one used.
-/
namespace Linewise.Prompt

inductive Command
  | print (text : List Char)
  | nextRow
  /-- Goes to a column, counted from 0. -/
  | column (n : Nat)
  | up (n : Nat)
  | down (n : Nat)
  | clearRow
  | red
  | plain
  | askPosition
deriving DecidableEq, Repr

/-- The characters of a sequence that a terminal obeys. -/
private def control (parameters : String) (final : Char) : List Char :=
  '\x1B' :: '[' :: parameters.toList ++ [final]

/-- The characters of a command, with or without color. -/
def Command.encode (colored : Bool) : Command → List Char
  | print text => text
  | nextRow => ['\r', '\n']
  | column n => control (toString (n + 1)) 'G'
  | up n => control (toString n) 'A'
  | down n => control (toString n) 'B'
  | clearRow => control "2" 'K'
  | red => control (if colored then "38;5;9" else "") 'm'
  | plain => control "0" 'm'
  | askPosition => control "6" 'n'

/-- A line that fits in some columns. Dots stand for what is left out, if there is room for them. -/
def truncate (width : Nat) (line : List Char) : List Char :=
  if line.length ≤ width then line
  else if 3 < width then line.take (width - 3) ++ ['.', '.', '.']
  else line.take width

inductive Row
  | output (text : List Char)
  | fault (text : List Char)
deriving DecidableEq, Repr

def Row.commands : Row → List Command
  | output text => [.nextRow, .print text]
  | fault text => [.nextRow, .red, .print text, .plain]

/-- The size of the screen, and the row of the prompt, counted from 0. -/
structure Window where
  columns : Nat
  rows : Nat
  promptRow : Nat
deriving DecidableEq, Repr

/-- How many rows there may be below the prompt: those of the screen, but never too few to be of
use. -/
def Window.rowsBelow (w : Window) : Nat := max 10 (w.rows - (w.promptRow + 1))

def promptText : List Char := "ssed> ".toList

/-- A line that points to the place of an error in the rule after the prompt, with the reason. -/
def faultLine (e : ReadError) : List Char :=
  List.replicate (promptText.length + e.column) ' ' ++ '^' :: ' ' :: e.reason.toList

/-- The rows that show the outcome of an edited rule. -/
def Window.show (w : Window) (json : Bool) : Except ReadError Document → List Row
  | .ok d =>
      let text := if json then Json.pretty d else d.toText
      ((Document.splitLines text.toList).take w.rowsBelow).map fun line =>
        .output (truncate w.columns line)
  | .error e => [.fault (truncate w.columns (faultLine e))]

def clearBelow (n : Nat) : List Command :=
  if n = 0 then [] else .down n :: (List.replicate n [.clearRow, .up 1]).flatten

def clearPrompt : List Command := [.column 0, .clearRow]

/-- Draws the prompt and the rows below it, where some rows have been drawn before. -/
def draw (before : Nat) (e : Editor) (rows : List Row) : List Command :=
  clearBelow before ++ clearPrompt ++ [.print (promptText ++ e.text)] ++
    rows.flatMap Row.commands ++ (if rows.isEmpty then [] else [.up rows.length]) ++
    [.column (promptText.length + e.cursor)]

end Linewise.Prompt
