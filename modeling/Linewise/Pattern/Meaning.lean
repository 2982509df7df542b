import Linewise.Pattern.Expr
import Linewise.Pattern.Tree
import Linewise.Unicode.Folding
import Linewise.Unicode.Property

/-!
From trees to expressions. Flags hold from where they stand to the end of the group around them.
Without the flag for Unicode a class is one of bytes, and it may not reach beyond ASCII, since the
text that is searched is not bytes.
-/
namespace Linewise.Pattern

structure Flags where
  ignoreCase : Bool := false
  multiLine : Bool := false
  dotAll : Bool := false
  swapGreed : Bool := false
  unicode : Bool := true
  crlf : Bool := false

def Flags.set (f : Flags) : Flag × Bool → Flags
  | (.ignoreCase, on) => { f with ignoreCase := on }
  | (.multiLine, on) => { f with multiLine := on }
  | (.dotAll, on) => { f with dotAll := on }
  | (.swapGreed, on) => { f with swapGreed := on }
  | (.unicode, on) => { f with unicode := on }
  | (.crlf, on) => { f with crlf := on }
  | (.verbose, _) => f

def Flags.apply (f : Flags) (changes : FlagChanges) : Flags := changes.foldl Flags.set f

private def asciiRuns (runs : List (Char × Char)) : CodeSet :=
  CodeSet.ofRuns (runs.map fun (a, b) => ⟨a.toNat, b.toNat⟩)

private def PosixClass.codes : PosixClass → CodeSet
  | alnum => asciiRuns [('0', '9'), ('A', 'Z'), ('a', 'z')]
  | alpha => asciiRuns [('A', 'Z'), ('a', 'z')]
  | ascii => asciiRuns [('\x00', '\x7F')]
  | blank => asciiRuns [('\t', '\t'), (' ', ' ')]
  | cntrl => asciiRuns [('\x00', '\x1F'), ('\x7F', '\x7F')]
  | digit => asciiRuns [('0', '9')]
  | graph => asciiRuns [('!', '~')]
  | lower => asciiRuns [('a', 'z')]
  | print => asciiRuns [(' ', '~')]
  | punct => asciiRuns [('!', '/'), (':', '@'), ('[', '\x60'), ('\x7B', '~')]
  | space => asciiRuns [('\t', '\r'), (' ', ' ')]
  | upper => asciiRuns [('A', 'Z')]
  | word => asciiRuns [('0', '9'), ('A', 'Z'), ('_', '_'), ('a', 'z')]
  | xdigit => asciiRuns [('0', '9'), ('A', 'F'), ('a', 'f')]

private def ShortClass.codes (unicode : Bool) : ShortClass → CodeSet
  | digit => if unicode then Unicode.decimalDigits else PosixClass.digit.codes
  | space => if unicode then Unicode.whiteSpace else PosixClass.space.codes
  | word => if unicode then Unicode.wordCodes else PosixClass.word.codes

private def foldAscii (s : CodeSet) : CodeSet :=
  let letters := (List.range 26).flatMap fun k =>
    let (upper, lower) := (0x41 + k, 0x61 + k)
    if s.containsCode upper || s.containsCode lower then
      [⟨upper, upper⟩, ⟨lower, lower⟩]
    else []
  CodeSet.ofRuns (s.runs.toList ++ letters)

private def foldFor (f : Flags) (s : CodeSet) : CodeSet :=
  if !f.ignoreCase then s else if f.unicode then s.foldCase else foldAscii s

private def negateFor (f : Flags) (negated : Bool) (place : Stretch) (s : CodeSet) :
    Except PatternError CodeSet :=
  if f.unicode then .ok (if negated then s.complement else s)
  else
    let s := if negated then (CodeSet.ofRuns [⟨0, 0xFF⟩]).diff s else s
    if s.last?.any (0x7F < ·) then fail .nonUtf8 place.start place.stop else .ok s

private def codeIn (f : Flags) (l : Literal) (place : Stretch) : Except PatternError Nat :=
  if f.unicode ∨ l.char.toNat < 0x80 then .ok l.char.toNat
  else fail (if l.byte then .nonUtf8 else .unicodeNotAllowed) place.start place.stop

private def propertyCodes (f : Flags) (name : PropertyName) (negated : Bool) (place : Stretch) :
    Except PatternError CodeSet :=
  if !f.unicode then fail .unicodeNotAllowed place.start place.stop
  else
    let found := match name with
      | .alone name => Unicode.named name
      | .valued property value => Unicode.valued property value
    match found with
    | .error .unknownProperty => fail .unknownProperty place.start place.stop
    | .error .unknownValue => fail .unknownPropertyValue place.start place.stop
    | .ok s => negateFor f negated place (foldFor f s)

private def shortCodes (f : Flags) (kind : ShortClass) (negated : Bool) (place : Stretch) :
    Except PatternError CodeSet :=
  negateFor f negated place (kind.codes f.unicode)

private def ClassOperator.apply : ClassOperator → CodeSet → CodeSet → CodeSet
  | intersection => CodeSet.inter
  | difference => CodeSet.diff
  | symmetricDifference => CodeSet.symmDiff

mutual

/-- The set that the inside of a class stands for. Case is dropped before a set is negated. -/
def ClassTree.codes (f : Flags) : ClassTree → Except PatternError CodeSet
  | .literal l place => return CodeSet.ofCode (← codeIn f l place)
  | .range first last firstPlace lastPlace =>
      return CodeSet.ofRuns [⟨← codeIn f first firstPlace, ← codeIn f last lastPlace⟩]
  | .posix kind negated place => negateFor f negated place (foldFor f kind.codes)
  | .short kind negated place => shortCodes f kind negated place
  | .property name negated place => propertyCodes f name negated place
  | .bracketed negated body place => do negateFor f negated place (foldFor f (← body.codes f))
  | .union items _ => return CodeSet.unions (← ClassTree.allCodes f items)
  | .combined op left right _ => do
      let l ← left.codes f
      let r ← right.codes f
      return op.apply (foldFor f l) (foldFor f r)

def ClassTree.allCodes (f : Flags) : List ClassTree → Except PatternError (List CodeSet)
  | [] => return []
  | t :: ts => return (← t.codes f) :: (← ClassTree.allCodes f ts)

end

private def literalExpr (f : Flags) (l : Literal) (place : Stretch) : Except PatternError Expr :=
  let c := l.char
  if !f.unicode && l.byte && 0x80 ≤ c.toNat then fail .nonUtf8 place.start place.stop
  else if !f.ignoreCase then .ok (.text [c])
  else if f.unicode then
    match Unicode.caseClass? c.toNat with
    | some codes => .ok (.oneOf (CodeSet.ofRuns (codes.map fun n => ⟨n, n⟩)))
    | none => .ok (.text [c])
  else if c.isAlpha then .ok (.oneOf (foldAscii (CodeSet.ofCode c.toNat)))
  else .ok (.text [c])

private def dotExpr (f : Flags) (place : Stretch) : Except PatternError Expr :=
  if !f.unicode then fail .nonUtf8 place.start place.stop
  else if f.dotAll then .ok (.oneOf CodeSet.full)
  else if f.crlf then
    .ok (.oneOf (CodeSet.ofRuns [⟨0xA, 0xA⟩, ⟨0xD, 0xD⟩]).complement)
  else .ok (.oneOf (CodeSet.ofCode 0xA).complement)

private def lookOf (f : Flags) : Assertion → Look
  | .lineStart => if !f.multiLine then .start else if f.crlf then .crlfStart else .lineStart
  | .lineEnd => if !f.multiLine then .stop else if f.crlf then .crlfEnd else .lineEnd
  | .textStart => .start
  | .textEnd => .stop
  | .word edge => .word edge f.unicode

private def Atom.expr (f : Flags) (place : Stretch) : Atom → Except PatternError Expr
  | .literal l => literalExpr f l place
  | .dot => dotExpr f place
  | .assertion a => .ok (.look (lookOf f a))
  | .short kind negated => (shortCodes f kind negated place).map .ofSet
  | .property name negated => (propertyCodes f name negated place).map .ofSet

mutual

/-- The expression of a tree under the given flags, and the flags that hold after it. -/
def Tree.meaning (f : Flags) : Tree → Except PatternError (Expr × Flags)
  | .empty => .ok (.empty, f)
  | .flags changes => .ok (.empty, f.apply changes)
  | .atom a place => return (← a.expr f place, f)
  | .bracketed negated body place => do
      let s ← negateFor f negated place (foldFor f (← body.codes f))
      return (.ofSet s, f)
  | .repeated body least most greedy _ => do
      let (e, f) ← body.meaning f
      return (.ofRepetition e least most (greedy != f.swapGreed), f)
  | .group (.capture index) body _ => do
      let (e, _) ← body.meaning f
      return (.capture index e, f)
  | .group (.plain changes) body _ => do
      let (e, _) ← body.meaning (f.apply changes)
      return (e, f)
  | .concat parts _ => do
      let (es, f) ← Tree.meanings f parts
      return (.ofParts es, f)
  | .alternation branches _ => do
      let (es, f) ← Tree.meanings f branches
      return (.ofBranches es, f)

def Tree.meanings (f : Flags) : List Tree → Except PatternError (List Expr × Flags)
  | [] => .ok ([], f)
  | t :: ts => do
      let (e, f) ← t.meaning f
      let (es, f) ← Tree.meanings f ts
      return (e :: es, f)

end

end Linewise.Pattern
