import Linewise.Pattern.Expr
import Linewise.Unicode.ByteRuns
import Linewise.Unicode.Utf8

/-!
Expressions seen as automata over bytes, as far as the size of such an automaton depends on them:
characters are bytes, sets are sequences of runs of bytes, and a choice of nothing but texts is
a tree of words.
-/
namespace Linewise.Pattern

inductive Shape
  /-- States in a row, each of which goes on to the next one. -/
  | row (length : Nat)
  /-- One byte out of that many runs of ASCII. -/
  | ascii (runs : Nat)
  /-- One character, given by the pieces of its set. -/
  | wide (pieces : List (List ByteRun))
  | words (texts : List (List UInt8))
  | repeated (body : Shape) (least : Nat) (most : Option Nat) (consumes : Bool)
  | capture (body : Shape)
  | concat (parts : List Shape)
  | choice (branches : List Shape)

instance : Inhabited Shape := ⟨.row 1⟩

namespace Expr

private def word? : Expr → Option (List UInt8)
  | text chars => some (chars.flatMap String.utf8EncodeChar)
  | _ => none

mutual

def shape : Expr → Shape
  | empty => .row 1
  | text chars => .row (utf8Size chars)
  | oneOf set =>
      if set.last?.any (0x7F < ·) then .wide set.byteRuns else .ascii set.runs.size
  | look _ => .row 1
  | repeated body least most _ => .repeated body.shape least most body.consumes
  | capture _ body => .capture body.shape
  | concat parts => .concat (shapes parts)
  | choice branches =>
      match branches.mapM word? with
      | some texts => .words texts
      | none => .choice (shapes branches)

def shapes : List Expr → List Shape
  | [] => []
  | e :: es => e.shape :: shapes es

end

mutual

/-- Whether every match begins where a condition holds, for what can be read off the expression:
the conditions that come before anything with a width. -/
def begins (l : Look) : Expr → Bool
  | look l' => l == l'
  | repeated body least _ _ => least != 0 && body.begins l
  | capture _ body => body.begins l
  | concat parts => firstBegins l parts
  | choice branches => allBegin l branches
  | _ => false

def firstBegins (l : Look) : List Expr → Bool
  | [] => false
  | e :: es => e.begins l || (e.isZeroWidth && firstBegins l es)

def allBegin (l : Look) : List Expr → Bool
  | [] => true
  | e :: es => e.begins l && allBegin l es

end

mutual

/-- Whether every match ends where a condition holds. -/
def ends (l : Look) : Expr → Bool
  | look l' => l == l'
  | repeated body least _ _ => least != 0 && body.ends l
  | capture _ body => body.ends l
  | concat parts => lastEnds l parts
  | choice branches => allEnd l branches
  | _ => false

def lastEnds (l : Look) : List Expr → Bool
  | [] => false
  | e :: es => lastEnds l es || (allZeroWidth es && e.ends l)

def allEnd (l : Look) : List Expr → Bool
  | [] => true
  | e :: es => e.ends l && allEnd l es

end

end Expr

end Linewise.Pattern
