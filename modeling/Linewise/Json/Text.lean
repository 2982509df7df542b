import Linewise.Document

/-!
Documents as JSON: an array of strings, on one line or with one line for each element. In a string
only quotes, backslashes and control characters are escaped.
-/
namespace Linewise.Json

private def hexDigit (n : Nat) : Char := (Nat.digitChar n)

def escapeChar (c : Char) : List Char :=
  match c with
  | '"' => ['\\', '"']
  | '\\' => ['\\', '\\']
  | '\x08' => ['\\', 'b']
  | '\t' => ['\\', 't']
  | '\n' => ['\\', 'n']
  | '\x0C' => ['\\', 'f']
  | '\r' => ['\\', 'r']
  | c =>
      if c.toNat < 0x20 then
        ['\\', 'u', '0', '0', hexDigit (c.toNat / 16), hexDigit (c.toNat % 16)]
      else [c]

def quote (s : String) : String := "\"" ++ String.ofList (s.toList.flatMap escapeChar) ++ "\""

def compact (d : Document) : String := "[" ++ String.intercalate "," (d.map quote) ++ "]"

/-- A document with each element on a line of its own, two blanks deep. -/
def pretty (d : Document) : String :=
  if d.isEmpty then "[]"
  else "[\n" ++ String.intercalate ",\n" (d.map fun s => "  " ++ quote s) ++ "\n]"

end Linewise.Json
