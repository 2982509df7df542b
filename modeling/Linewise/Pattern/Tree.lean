import Linewise.Pattern.Error
import Linewise.Pattern.Look

/-!
Patterns as they are written. A tree keeps what the text says and where it says it, and nothing of
what its flags make of it. The depth of a tree is what limits nesting.
-/
namespace Linewise.Pattern

/-- What a pattern may switch on and off. -/
inductive Flag
  | ignoreCase
  | multiLine
  | dotAll
  | swapGreed
  | unicode
  | crlf
  | verbose
deriving DecidableEq, Repr

/-- Flags in the order written, each with its new state. -/
abbrev FlagChanges := List (Flag × Bool)

/-- A character. One written with two hexadecimal digits may mean a byte. -/
structure Literal where
  char : Char
  byte : Bool
deriving DecidableEq, Repr

inductive Assertion
  | lineStart
  | lineEnd
  | textStart
  | textEnd
  | word (edge : WordEdge)
deriving DecidableEq, Repr

inductive ShortClass
  | digit
  | space
  | word
deriving DecidableEq, Repr

inductive PosixClass
  | alnum | alpha | ascii | blank | cntrl | digit | graph | lower | print | punct | space | upper
  | word | xdigit
deriving DecidableEq, Repr

/-- A property of characters, named alone or with one of its values. -/
inductive PropertyName
  | alone (name : String)
  | valued (property value : String)
deriving DecidableEq, Repr

/-- What stands for one character or for none. -/
inductive Atom
  | literal (l : Literal)
  | dot
  | assertion (a : Assertion)
  | short (kind : ShortClass) (negated : Bool)
  | property (name : PropertyName) (negated : Bool)
deriving DecidableEq, Repr

inductive ClassOperator
  | intersection
  | difference
  | symmetricDifference
deriving DecidableEq, Repr

/-- The inside of a bracketed class. -/
inductive ClassTree
  | literal (l : Literal) (place : Stretch)
  | range (first last : Literal) (firstPlace lastPlace : Stretch)
  | posix (kind : PosixClass) (negated : Bool) (place : Stretch)
  | short (kind : ShortClass) (negated : Bool) (place : Stretch)
  | property (name : PropertyName) (negated : Bool) (place : Stretch)
  | bracketed (negated : Bool) (body : ClassTree) (place : Stretch)
  | union (items : List ClassTree) (place : Stretch)
  | combined (operator : ClassOperator) (left right : ClassTree) (place : Stretch)
deriving Repr

inductive GroupKind
  | capture (index : Nat)
  | plain (changes : FlagChanges)
deriving Repr

inductive Tree
  | empty
  | flags (changes : FlagChanges)
  | atom (a : Atom) (place : Stretch)
  | bracketed (negated : Bool) (body : ClassTree) (place : Stretch)
  /-- Without a greatest number, any number of times. -/
  | repeated (body : Tree) (least : Nat) (most : Option Nat) (greedy : Bool) (place : Stretch)
  | group (kind : GroupKind) (body : Tree) (place : Stretch)
  | concat (parts : List Tree) (place : Stretch)
  | alternation (branches : List Tree) (place : Stretch)
deriving Repr

instance : Inhabited Tree := ⟨.empty⟩

instance : Inhabited ClassTree := ⟨.union [] ⟨[], []⟩⟩

def ClassTree.place : ClassTree → Stretch
  | .literal _ place | .posix _ _ place | .short _ _ place | .property _ _ place
  | .bracketed _ _ place | .union _ place | .combined _ _ _ place => place
  | .range _ _ firstPlace lastPlace => ⟨firstPlace.start, lastPlace.stop⟩

/-- The place of all that can be repeated. -/
def Tree.place : Tree → Stretch
  | .empty | .flags _ => ⟨[], []⟩
  | .atom _ place | .bracketed _ _ place | .repeated _ _ _ _ place | .group _ _ place
  | .concat _ place | .alternation _ place => place

mutual

/-- The first part of a class that lies below so many levels of nesting. -/
def ClassTree.below? (levels : Nat) : ClassTree → Option Stretch
  | .bracketed _ body place =>
      match levels with
      | 0 => some place
      | levels + 1 => body.below? levels
  | .combined _ left right place =>
      match levels with
      | 0 => some place
      | levels + 1 => left.below? levels <|> right.below? levels
  | .union [] _ => none
  | .union (item :: items) place =>
      match levels with
      | 0 => some place
      | levels + 1 => item.below? levels <|> ClassTree.anyBelow? levels items
  | _ => none

def ClassTree.anyBelow? (levels : Nat) : List ClassTree → Option Stretch
  | [] => none
  | item :: items => item.below? levels <|> ClassTree.anyBelow? levels items

end

mutual

/-- The first part of a tree that lies below so many levels of nesting. Everything that can hold
another tree is a level. -/
def Tree.below? (levels : Nat) : Tree → Option Stretch
  | .bracketed _ body place =>
      match levels with
      | 0 => some place
      | levels + 1 => body.below? levels
  | .repeated body _ _ _ place | .group _ body place =>
      match levels with
      | 0 => some place
      | levels + 1 => body.below? levels
  | .concat trees place | .alternation trees place =>
      match levels with
      | 0 => some place
      | levels + 1 => Tree.anyBelow? levels trees
  | _ => none

def Tree.anyBelow? (levels : Nat) : List Tree → Option Stretch
  | [] => none
  | t :: ts => t.below? levels <|> Tree.anyBelow? levels ts

end

end Linewise.Pattern
