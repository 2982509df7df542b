import Linewise.Pattern.Lexeme

/-!
Bracketed classes. The reader keeps the classes that are still open, each with the items read before
it, and the left side of an operator that waits for its right side. Operators bind alike and to the
left.
-/
namespace Linewise.Pattern

/-- What waits for more text while a class is read. -/
inductive OpenClass
  /-- An open bracket, with the items before it in the class around it, the last one first, and where
  these start. -/
  | bracket (before : List ClassTree) (start : List Char) (negated : Bool) (opening : Stretch)
  | operator (operator : ClassOperator) (left : ClassTree)

/-- How far a class is read. -/
structure ClassProgress where
  rest : List Char
  /-- The items, the last one first. -/
  items : List ClassTree := []
  /-- Where the items start. -/
  start : List Char
  waiting : List OpenClass := []

/-- The items of a class as one tree; they come last one first. -/
def classOfItems (start : List Char) : List ClassTree → ClassTree
  | [] => .union [] ⟨start, start⟩
  | [item] => item
  | last :: items =>
      let items := (last :: items).reverse
      .union items ⟨(items.head?.getD last).place.start, last.place.stop⟩

/-- The text ends in a class: the fault lies where the innermost bracket is open. -/
private def failUnclosed {α : Type} (rest : List Char) : List OpenClass → Except PatternError α
  | [] => failHere .unclosedClass rest
  | .bracket _ _ _ opening :: _ => fail .unclosedClass opening.start opening.stop
  | .operator _ _ :: waiting => failUnclosed rest waiting

/-- A bracket, given the text after it: a caret negates it, hyphens at the front stand for themselves,
and so does a closing bracket that comes first of all. -/
private def openBracket (verbose : Bool) (p : ClassProgress) (s : List Char) :
    Except PatternError ClassProgress :=
  let opening := '[' :: s
  let rec hyphens (items : List ClassTree) (s : List Char) :
      Except PatternError (List ClassTree × List Char) :=
    match s with
    | [] => failHere .unclosedClass opening
    | '-' :: s => hyphens (.literal ⟨'-', false⟩ ⟨'-' :: s, s⟩ :: items) (skip verbose s)
    | s => .ok (items, s)
  termination_by s.length
  decreasing_by exact Nat.lt_succ_of_le (length_skip_le verbose s)
  let (negated, start) := match skip verbose s with
    | '^' :: s => (true, skip verbose s)
    | s => (false, s)
  let opened (items : List ClassTree) (rest : List Char) : ClassProgress :=
    { rest, items, start,
      waiting := .bracket p.items p.start negated ⟨opening, rest⟩ :: p.waiting }
  if start.isEmpty then fail .unclosedClass opening []
  else match hyphens [] start with
  | .error e => .error e
  | .ok ([], ']' :: s) =>
      match skip verbose s with
      | [] => fail .unclosedClass opening []
      | rest => .ok (opened [.literal ⟨']', false⟩ ⟨']' :: s, s⟩] rest)
  | .ok (items, rest) => .ok (opened items rest)

private def posixNamed? (name : String) : Option PosixClass :=
  match name with
  | "alnum" => some .alnum | "alpha" => some .alpha | "ascii" => some .ascii
  | "blank" => some .blank | "cntrl" => some .cntrl | "digit" => some .digit
  | "graph" => some .graph | "lower" => some .lower | "print" => some .print
  | "punct" => some .punct | "space" => some .space | "upper" => some .upper
  | "word" => some .word | "xdigit" => some .xdigit
  | _ => none

/-- A class such as `[:alpha:]`, given the text after its bracket. Anything else is no failure: the
bracket then opens a class of its own. -/
private def posix? (s : List Char) : Option (ClassTree × List Char) :=
  match s with
  | ':' :: name =>
      let (negated, name) := match name with
        | '^' :: name => (true, name)
        | name => (false, name)
      match name.dropWhile (· != ':') with
      | ':' :: ']' :: rest =>
          (posixNamed? (String.ofList (name.takeWhile (· != ':')))).map fun kind =>
            (.posix kind negated ⟨'[' :: s, rest⟩, rest)
      | _ => none
  | _ => none

/-- The next character, or what a backslash starts. -/
private def classAtom (verbose : Bool) (c : Char) (s : List Char) :
    Except PatternError (Atom × List Char) :=
  if c = '\\' then escape verbose s else .ok (.literal ⟨c, false⟩, s)

private def itemOfAtom (place : Stretch) : Atom → Except PatternError ClassTree
  | .literal l => .ok (.literal l place)
  | .short kind negated => .ok (.short kind negated place)
  | .property name negated => .ok (.property name negated place)
  | .dot | .assertion _ => fail .assertionInClass place.start place.stop

private def boundOfAtom (place : Stretch) : Atom → Except PatternError Literal
  | .literal l => .ok l
  | _ => fail .classRangeOfClass place.start place.stop

/-- An item, or a range of characters. A hyphen before a closing bracket or a second hyphen makes no
range. -/
private def itemOrRange (verbose : Bool) (waiting : List OpenClass) (c : Char) (s : List Char) :
    Except PatternError (ClassTree × List Char) := do
  let (first, s') ← classAtom verbose c s
  let firstPlace : Stretch := ⟨c :: s, s'⟩
  let item (rest : List Char) := (itemOfAtom firstPlace first).map fun t => (t, rest)
  match skip verbose s' with
  | [] => failUnclosed [] waiting
  | '-' :: afterHyphen =>
      match peekPast verbose ('-' :: afterHyphen) with
      | some ']' | some '-' => item ('-' :: afterHyphen)
      | _ =>
          match skip verbose afterHyphen with
          | [] => failUnclosed [] waiting
          | d :: s =>
              let (last, rest) ← classAtom verbose d s
              let lastPlace : Stretch := ⟨d :: s, rest⟩
              let a ← boundOfAtom firstPlace first
              let b ← boundOfAtom lastPlace last
              if b.char < a.char then fail .backwardClassRange firstPlace.start rest
              else return (.range a b firstPlace lastPlace, rest)
  | rest => item rest

private def applyOperator (right : ClassTree) :
    List OpenClass → ClassTree × List OpenClass
  | .operator op left :: waiting =>
      (.combined op left right ⟨left.place.start, right.place.stop⟩, waiting)
  | waiting => (right, waiting)

/-- One step of a class: either the class is complete, or it is read further. -/
private def classStep (verbose : Bool) (p : ClassProgress) :
    Except PatternError ((ClassTree × List Char) ⊕ ClassProgress) :=
  let operate (op : ClassOperator) (rest : List Char) :=
    let (left, waiting) := applyOperator (classOfItems p.start p.items) p.waiting
    .ok (.inr { rest, start := rest, waiting := .operator op left :: waiting })
  match p.rest with
  | [] => failUnclosed [] p.waiting
  | '[' :: s =>
      match (if p.waiting.isEmpty then none else posix? s) with
      | some (item, rest) => .ok (.inr { p with items := item :: p.items, rest })
      | none => (openBracket verbose p s).map .inr
  | ']' :: rest =>
      match applyOperator (classOfItems p.start p.items) p.waiting with
      | (body, .bracket before start negated opening :: waiting) =>
          let closed := ClassTree.bracketed negated body ⟨opening.start, rest⟩
          if waiting.isEmpty then .ok (.inl (closed, rest))
          else .ok (.inr { rest, items := closed :: before, start, waiting })
      | _ => failUnclosed p.rest p.waiting
  | '&' :: '&' :: s => operate .intersection s
  | '-' :: '-' :: s => operate .difference s
  | '~' :: '~' :: s => operate .symmetricDifference s
  | c :: s => do
      let (item, rest) ← itemOrRange verbose p.waiting c s
      return .inr { p with items := item :: p.items, rest }

/-- Reads on until the outermost class is closed. Each step takes at least one character. -/
private def classLoop (verbose : Bool) (p : ClassProgress) :
    Except PatternError (ClassTree × List Char) :=
  match classStep verbose { p with rest := skip verbose p.rest } with
  | .error e => .error e
  | .ok (.inl done) => .ok done
  | .ok (.inr p') =>
      if p'.rest.length < p.rest.length then classLoop verbose p'
      else failUnclosed p'.rest p'.waiting
termination_by p.rest.length

def readClass (verbose : Bool) (s : List Char) : Except PatternError (ClassTree × List Char) :=
  classLoop verbose { rest := s, start := s }

end Linewise.Pattern
