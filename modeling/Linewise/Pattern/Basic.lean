import Linewise.Pattern.Backtracking
import Linewise.Pattern.Meaning
import Linewise.Pattern.Reader
import Linewise.Pattern.Size
import Linewise.Pattern.Template
import Linewise.Unicode.Utf8

/-!
Compiled patterns, and what the rest of the library asks of them: whether a line matches, where, and
what a line becomes when its matches are replaced. A pattern that cannot be compiled never matches.
-/
namespace Linewise

/-- A pattern that can match; without a search it never does. -/
structure Pattern where
  search : Option Pattern.Search
deriving Inhabited

namespace Pattern

def never : Pattern := ⟨none⟩

mutual

def Tree.lastGroup : Tree → Nat
  | .group (.capture index) body _ => max index body.lastGroup
  | .group _ body _ => body.lastGroup
  | .repeated body _ _ _ _ => body.lastGroup
  | .concat parts _ => Tree.lastGroups parts
  | .alternation branches _ => Tree.lastGroups branches
  | _ => 0

def Tree.lastGroups : List Tree → Nat
  | [] => 0
  | t :: ts => max t.lastGroup (Tree.lastGroups ts)

end

def compile (source : String) : Except PatternError Pattern := do
  let (tree, names) ← readTree source
  let (e, _) ← tree.meaning {}
  if !e.fits then throw .tooLarge
  return ⟨some (Program.ofExpr e names (tree.lastGroup + 1)).search⟩

def matchesOn (p : Pattern) (line : Array Char) : List (Match line.size) :=
  match p.search with
  | none => []
  | some search => search.allMatches line

def matchesLine (p : Pattern) (line : String) : Bool :=
  match p.search with
  | none => false
  | some search => (search.find? line.toList.toArray 0).isSome

/-- The matches that a replacement applies to: the first one, or all. -/
def replaced (p : Pattern) (line : Array Char) (everywhere : Bool) : List (Match line.size) :=
  if everywhere then p.matchesOn line
  else match p.search with
    | none => []
    | some search =>
        match search.find? line 0 with
        | none => []
        | some m => [m.1]

/-- A line with its first match, or every match, replaced. -/
def replace (p : Pattern) (line replacement : String) (everywhere : Bool) : String :=
  let chars := line.toList.toArray
  let names := (p.search.map Search.names).getD []
  let pieces := Piece.ofChars replacement.toList
  match p.replaced chars everywhere with
  | [] => line
  | ms => String.ofList (splice chars (fun m => m.expand chars names pieces) 0 ms)

/-- The matches on a line that have any characters. -/
def spans (p : Pattern) (line : Array Char) : List (Span line.size) :=
  ((p.matchesOn line).map Match.whole).filter fun s => !s.isEmpty

/-- The first byte of a stretch of a line and the byte after it. -/
def Span.bytes {line : Array Char} (s : Span line.size) : Nat × Nat :=
  (utf8Size (line.extract 0 s.start).toList, utf8Size (line.extract 0 s.stop).toList)

end Pattern

end Linewise
