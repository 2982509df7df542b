import Linewise.Pattern.Tree
import Linewise.Unicode.Classes

/-!
The smallest parts of a pattern: blanks and comments between them, numbers, and everything that a
backslash starts. In a verbose pattern blanks and comments may stand almost anywhere.
-/
namespace Linewise.Pattern

/-- Drops blanks and comments; `comment` says whether the text starts inside one. -/
def dropBlanks (comment : Bool) : List Char → List Char
  | [] => []
  | c :: s =>
      if comment then dropBlanks (c != '\n') s
      else if isWhite c then dropBlanks false s
      else if c = '#' then dropBlanks true s
      else c :: s

/-- Drops blanks and comments from a verbose pattern, and nothing from any other. -/
def skip (verbose : Bool) (s : List Char) : List Char :=
  if verbose then dropBlanks false s else s

theorem length_dropBlanks_le (comment : Bool) (s : List Char) :
    (dropBlanks comment s).length ≤ s.length := by
  induction s generalizing comment with
  | nil => exact Nat.le_refl _
  | cons c s ih =>
      unfold dropBlanks
      split
      · exact Nat.le_succ_of_le (ih _)
      · split
        · exact Nat.le_succ_of_le (ih _)
        · split
          · exact Nat.le_succ_of_le (ih _)
          · exact Nat.le_refl _

theorem length_skip_le (verbose : Bool) (s : List Char) : (skip verbose s).length ≤ s.length := by
  unfold skip
  split
  · exact length_dropBlanks_le false s
  · exact Nat.le_refl _

/-- The character after the next one, past blanks. A number sign is passed over as well, and what
follows it counts as text. -/
def peekPast (verbose : Bool) (s : List Char) : Option Char :=
  let rest := s.drop 1
  let rec go (comment : Bool) : List Char → Option Char
    | [] => rest.head?
    | c :: s =>
        if isWhite c then go comment s
        else if !comment && c == '#' then go true s
        else some c
  if verbose then go false rest else rest.head?

def hexDigit? (c : Char) : Option Nat :=
  if c.isDigit then some (c.toNat - '0'.toNat)
  else if 'a' ≤ c ∧ c ≤ 'f' then some (c.toNat - 'a'.toNat + 10)
  else if 'A' ≤ c ∧ c ≤ 'F' then some (c.toNat - 'A'.toNat + 10)
  else none

/-- The character of a code point that is written between two places. -/
private def scalar (start stop : List Char) (n : Nat) : Except PatternError Char :=
  if n < 0xD800 ∨ 0xDFFF < n ∧ n ≤ lastCode then .ok (Char.ofNat n)
  else fail .hexNotAScalar start stop

/-- Exactly that many hexadecimal digits. -/
private def fixedHex (verbose : Bool) :
    Nat → Nat → List Char → Except PatternError (Nat × List Char)
  | 0, value, s => .ok (value, s)
  | _ + 1, _, [] => failHere .unfinishedEscape []
  | count + 1, value, c :: s =>
      match hexDigit? c with
      | none => failNext .invalidHexDigit (c :: s)
      | some d => fixedHex verbose count (16 * value + d) (skip verbose s)

/-- The hexadecimal digits up to a closing brace, the last one first, and what is left from the brace
on, if there is one. -/
private def bracedHex (verbose : Bool) (digits : List Nat) (s : List Char) :
    Except PatternError (List Nat × List Char) :=
  match s with
  | [] => .ok (digits, [])
  | '}' :: s => .ok (digits, '}' :: s)
  | c :: s =>
      match hexDigit? c with
      | none => failNext .invalidHexDigit (c :: s)
      | some d => bracedHex verbose (d :: digits) (skip verbose s)
termination_by s.length
decreasing_by exact Nat.lt_succ_of_le (length_skip_le verbose s)

/-- A code point after `\x`, `\u` or `\U`, with that many digits or any number of them in braces. -/
private def hexEscape (verbose : Bool) (count : Nat) (s : List Char) :
    Except PatternError (Atom × List Char) :=
  match skip verbose s with
  | [] => failHere .unfinishedEscape []
  | '{' :: inner => do
      match ← bracedHex verbose [] (skip verbose inner) with
      | (_, []) => fail .unfinishedEscape ('{' :: inner) []
      | (digits, brace) =>
          let rest := skip verbose (brace.drop 1)
          if digits.isEmpty then fail .emptyHex ('{' :: inner) rest
          else
            let char ← scalar inner brace (digits.foldr (fun d n => 16 * n + d) 0)
            return (.literal ⟨char, false⟩, rest)
  | s => do
      let (value, rest) ← fixedHex verbose count 0 s
      let char ← scalar s rest value
      return (.literal ⟨char, count == 2⟩, rest)

/-- Decimal digits; a verbose pattern may have blanks between them. -/
private def digitRun (verbose : Bool) (s : List Char) : List Char × List Char :=
  match s with
  | [] => ([], [])
  | c :: s =>
      if c.isDigit then
        let (digits, rest) := digitRun verbose (skip verbose s)
        (c :: digits, rest)
      else ([], c :: s)
termination_by s.length
decreasing_by exact Nat.lt_succ_of_le (length_skip_le verbose s)

/-- A count among blanks: what it is or why it is none, and what follows in either case. A count
must fit in 32 bits. -/
def count (verbose : Bool) (s : List Char) : Except PatternError Nat × List Char :=
  let start := s.dropWhile isWhite
  let (digits, rest) := digitRun verbose start
  let value := digits.foldl (fun n d => 10 * n + (d.toNat - '0'.toNat)) 0
  let result : Except PatternError Nat :=
    if digits.isEmpty then fail .missingCount start rest
    else if 4294967296 ≤ value then fail .hugeCount start rest
    else .ok value
  (result, rest.dropWhile isWhite)

/-- Characters with a meaning somewhere in a pattern. -/
def isMeta (c : Char) : Bool :=
  ['\\', '.', '+', '*', '?', '(', ')', '|', '[', ']', '{', '}', '^', '$', '#', '&', '-',
    '~'].contains c

/-- Characters that stand for themselves after a backslash. -/
def standsForItself (c : Char) : Bool :=
  isMeta c || (c.toNat < 0x80 && !c.isAlphanum && c != '<' && c != '>')

/-- The characters of a name up to a closing brace. -/
private def bracedName (verbose : Bool) (s : List Char) :
    Except PatternError (List Char × List Char) :=
  match s with
  | [] => failHere .unfinishedEscape []
  | '}' :: s => .ok ([], s)
  | c :: s => do
      let (name, rest) ← bracedName verbose (skip verbose s)
      return (c :: name, rest)
termination_by s.length
decreasing_by exact Nat.lt_succ_of_le (length_skip_le verbose s)

/-- Splits a text at the first occurrence of a word. -/
private def splitAt? (word : List Char) : List Char → Option (List Char × List Char)
  | [] => none
  | c :: s =>
      if word.isPrefixOf (c :: s) then some ([], (c :: s).drop word.length)
      else (splitAt? word s).map fun (a, b) => (c :: a, b)

private def propertyOfName (negated : Bool) (name : List Char) : Atom :=
  let valued := fun (a, b) => PropertyName.valued (String.ofList a) (String.ofList b)
  match splitAt? ['!', '='] name with
  | some parts => .property (valued parts) !negated
  | none =>
  match splitAt? [':'] name with
  | some parts => .property (valued parts) negated
  | none =>
  match splitAt? ['='] name with
  | some parts => .property (valued parts) negated
  | none => .property (.alone (String.ofList name)) negated

/-- A property after `\p` or `\P`: one character, or a name in braces. -/
private def propertyEscape (verbose negated : Bool) (s : List Char) :
    Except PatternError (Atom × List Char) :=
  match skip verbose s with
  | [] => failHere .unfinishedEscape []
  | '{' :: s => do
      let (name, rest) ← bracedName verbose (skip verbose s)
      return (propertyOfName negated name, rest)
  | '\\' :: s => failNext .invalidPropertyName ('\\' :: s)
  | c :: s => .ok (.property (.alone (String.singleton c)) negated, skip verbose s)

private def isEdgeChar (c : Char) : Bool := c.isAlpha || c == '-'

private def edgeName (verbose : Bool) (s : List Char) : List Char × List Char :=
  match s with
  | [] => ([], [])
  | c :: s =>
      if isEdgeChar c then
        let (name, rest) := edgeName verbose (skip verbose s)
        (c :: name, rest)
      else ([], c :: s)
termination_by s.length
decreasing_by exact Nat.lt_succ_of_le (length_skip_le verbose s)

/-- What follows `\b`, given where that starts. A brace with a letter or hyphen in it names an edge of
a word; one without is left for a count. -/
private def boundaryEscape (verbose : Bool) (start s : List Char) :
    Except PatternError (Atom × List Char) :=
  match s with
  | '{' :: inner =>
      match skip verbose inner with
      | [] => fail .braceAfterWordBoundary start []
      | c :: s' =>
          if isEdgeChar c then
            match edgeName verbose (c :: s') with
            | (name, '}' :: rest) =>
                match String.ofList name with
                | "start" => .ok (.assertion (.word .start), rest)
                | "end" => .ok (.assertion (.word .stop), rest)
                | "start-half" => .ok (.assertion (.word .startHalf), rest)
                | "end-half" => .ok (.assertion (.word .stopHalf), rest)
                | _ => fail .unknownWordBoundary (c :: s') ('}' :: rest)
            | (_, rest) => fail .unclosedWordBoundary s rest
          else .ok (.assertion (.word .boundary), s)
  | s => .ok (.assertion (.word .boundary), s)

/-- What a backslash starts, given the text after it. -/
def escape (verbose : Bool) : List Char → Except PatternError (Atom × List Char)
  | [] => fail .unfinishedEscape ['\\'] []
  | c :: s =>
      let start := '\\' :: c :: s
      let char := fun c : Char => Except.ok (Atom.literal ⟨c, false⟩, s)
      if standsForItself c then char c
      else if c.isDigit then fail .backreference start s
      else match c with
        | 'x' => hexEscape verbose 2 s
        | 'u' => hexEscape verbose 4 s
        | 'U' => hexEscape verbose 8 s
        | 'p' => propertyEscape verbose false s
        | 'P' => propertyEscape verbose true s
        | 'd' => .ok (.short .digit false, s)
        | 'D' => .ok (.short .digit true, s)
        | 's' => .ok (.short .space false, s)
        | 'S' => .ok (.short .space true, s)
        | 'w' => .ok (.short .word false, s)
        | 'W' => .ok (.short .word true, s)
        | 'a' => char '\x07'
        | 'f' => char '\x0C'
        | 't' => char '\t'
        | 'n' => char '\n'
        | 'r' => char '\r'
        | 'v' => char '\x0B'
        | 'A' => .ok (.assertion .textStart, s)
        | 'z' => .ok (.assertion .textEnd, s)
        | 'b' => boundaryEscape verbose start s
        | 'B' => .ok (.assertion (.word .notBoundary), s)
        | '<' => .ok (.assertion (.word .start), s)
        | '>' => .ok (.assertion (.word .stop), s)
        | _ => fail .unknownEscape start s

end Linewise.Pattern
