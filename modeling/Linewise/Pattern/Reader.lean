import Linewise.Pattern.ClassReader

/-!
The reader of patterns. It goes through the text once and keeps the groups that are still open, each
with what was read before it. Errors are found in the order of the text; nesting is measured when
the whole pattern is read.
-/
namespace Linewise.Pattern

/-- What waits for more text while a pattern is read. -/
private inductive Open
  /-- A group that starts at a place, with the parts before it, the last one first, where these start,
  and whether they are verbose. -/
  | group (place : List Char) (kind : GroupKind) (before : List Tree) (start : List Char)
      (verbose : Bool)
  /-- The branches of an alternation, the last one first, and where they start. -/
  | branches (done : List Tree) (start : List Char)

/-- How far a pattern is read. -/
private structure Progress where
  rest : List Char
  verbose : Bool := false
  /-- The parts of the current branch, the last one first. -/
  parts : List Tree := []
  /-- Where the current branch starts. -/
  start : List Char
  waiting : List Open := []
  captures : Nat := 0
  /-- The names of groups, with where they stand. -/
  names : List (String × Nat × Stretch) := []

private def concatOf (place : Stretch) : List Tree → Tree
  | [] => .empty
  | [t] => t
  | parts => .concat parts.reverse place

private def Progress.branch (p : Progress) : Tree := concatOf ⟨p.start, p.rest⟩ p.parts

private def flagOf? : Char → Option Flag
  | 'i' => some .ignoreCase
  | 'm' => some .multiLine
  | 's' => some .dotAll
  | 'U' => some .swapGreed
  | 'u' => some .unicode
  | 'R' => some .crlf
  | 'x' => some .verbose
  | _ => none

/-- Fails with a fault at the next character, which is like one before it. -/
private def failAgain {α : Type} (fault : Fault) (s earlier : List Char) : Except PatternError α :=
  .error (.faulty fault ⟨s, s.drop 1⟩ (some ⟨earlier, earlier.drop 1⟩))

/-- Flags up to a colon or a closing parenthesis, which is left. After a hyphen they are switched
off; a flag and a hyphen may occur once, and no hyphen may be the last. -/
private def readFlags (changes : List (Flag × Bool × List Char)) (hyphen? : Option (List Char))
    (dangling : Bool) : List Char → Except PatternError (FlagChanges × List Char)
  | [] => failHere .unfinishedFlags []
  | c :: s =>
      if c = ':' ∨ c = ')' then
        match dangling, hyphen? with
        | true, some hyphen => failNext .danglingFlagNegation hyphen
        | _, _ => .ok (changes.reverse.map fun (f, on, _) => (f, on), c :: s)
      else if c = '-' then
        match hyphen? with
        | some hyphen => failAgain .repeatedFlagNegation (c :: s) hyphen
        | none => readFlags changes (some (c :: s)) true s
      else match flagOf? c with
        | none => failNext .unknownFlag (c :: s)
        | some f =>
            match changes.find? (·.1 = f) with
            | some (_, _, earlier) => failAgain .duplicateFlag (c :: s) earlier
            | none => readFlags ((f, hyphen?.isNone, c :: s) :: changes) hyphen? false s

private def isNameChar (first : Bool) (c : Char) : Bool :=
  c == '_' ||
    if first then isAlphabetic c
    else c == '.' || c == '[' || c == ']' || isLetterOrNumber c

/-- The name of a group up to its closing bracket, which is left. -/
private def readName (first : Bool) : List Char → Except PatternError (List Char × List Char)
  | [] => failHere .unclosedGroupName []
  | '>' :: s => .ok ([], '>' :: s)
  | c :: s => do
      if !isNameChar first c then failNext .invalidGroupName (c :: s)
      else
        let (name, rest) ← readName false s
        return (c :: name, rest)

/-- A group that starts at a place, with the text inside it. -/
private def openGroup (p : Progress) (place : List Char) (kind : GroupKind) (verbose : Bool)
    (inside : List Char) : Progress :=
  { p with
    rest := inside, verbose, parts := [], start := inside,
    waiting := .group place kind p.parts p.start p.verbose :: p.waiting }

private def namedGroup (p : Progress) (place s : List Char) : Except PatternError Progress := do
  let (chars, closing) ← readName true s
  let name := String.ofList chars
  if chars.isEmpty then failHere .emptyGroupName s
  else match p.names.lookup name with
    | some (_, earlier) => .error (.faulty .duplicateGroupName ⟨s, closing⟩ (some earlier))
    | none =>
        let index := p.captures + 1
        let p := { p with captures := index, names := (name, index, ⟨s, closing⟩) :: p.names }
        return openGroup p place (.capture index) p.verbose (closing.drop 1)

private def flagGroup (p : Progress) (place s : List Char) : Except PatternError Progress := do
  if s.isEmpty then failNext .unclosedGroup place
  else
    let (changes, rest) ← readFlags [] none false s
    let verbose := (changes.find? (·.1 = .verbose)).elim p.verbose Prod.snd
    match rest with
    | ':' :: inside => return openGroup p place (.plain changes) verbose inside
    | rest =>
        if changes.isEmpty then failHere .nothingToRepeat ('?' :: s)
        else return { p with rest := rest.drop 1, verbose, parts := .flags changes :: p.parts }

/-- A group that starts at a place, given the text after its opening parenthesis. -/
private def readGroup (p : Progress) (place s : List Char) : Except PatternError Progress :=
  match skip p.verbose s with
  | '?' :: '=' :: s | '?' :: '!' :: s => fail .lookAround place s
  | '?' :: '<' :: '=' :: s | '?' :: '<' :: '!' :: s => fail .lookAround place s
  | '?' :: 'P' :: '<' :: s => namedGroup p place s
  | '?' :: '<' :: s => namedGroup p place s
  | '?' :: s => flagGroup p place s
  | s =>
      let index := p.captures + 1
      .ok (openGroup { p with captures := index } place (.capture index) p.verbose s)

/-- All branches of the group that is open, the current one included, and what waits around it. -/
private def alternationOf (p : Progress) : Tree × List Open :=
  match p.waiting with
  | .branches done start :: waiting =>
      (.alternation (p.branch :: done).reverse ⟨start, p.rest⟩, waiting)
  | waiting => (p.branch, waiting)

private def closeGroup (p : Progress) (rest : List Char) : Except PatternError Progress :=
  match alternationOf p with
  | (body, .group place kind before start verbose :: waiting) =>
      .ok
        { p with
          rest, verbose, parts := .group kind body ⟨place, rest⟩ :: before, start, waiting }
  | _ => failNext .unopenedGroup p.rest

private def nextBranch (p : Progress) (rest : List Char) : Progress :=
  let waiting := match p.waiting with
    | .branches done start :: waiting => .branches (p.branch :: done) start :: waiting
    | waiting => .branches [p.branch] p.start :: waiting
  { p with rest, parts := [], start := rest, waiting }

/-- The part that an operator repeats, with the parts before it. -/
private def repeatable (p : Progress) : Except PatternError (Tree × List Tree) :=
  match p.parts with
  | [] | .empty :: _ | .flags _ :: _ => failHere .nothingToRepeat p.rest
  | t :: before => .ok (t, before)

/-- A question mark directly after an operator makes it lazy. -/
private def repeatOnce (p : Progress) (least : Nat) (most : Option Nat) (s : List Char) :
    Except PatternError Progress := do
  let (body, before) ← repeatable p
  let (greedy, rest) := match s with
    | '?' :: s => (false, s)
    | s => (true, s)
  let part := Tree.repeated body least most greedy ⟨body.place.start, rest⟩
  return { p with rest, parts := part :: before }

/-- The counts of a repetition, given the text from its opening brace on; the text that follows them
starts at the closing brace. -/
private def readCounts (verbose : Bool) (brace : List Char) :
    Except PatternError (Nat × Option Nat × List Char) := do
  match skip verbose (brace.drop 1) with
  | [] => fail .unclosedCount brace []
  | s =>
      let (first, s) := count verbose s
      match s with
      | [] => fail .unclosedCount brace []
      | ',' :: s =>
          match skip verbose s with
          | [] => fail .unclosedCount brace []
          | '}' :: s => return (← first, none, '}' :: s)
          | s =>
              let least ← first
              let (second, s) := count verbose s
              return (least, some (← second), s)
      | s =>
          let n ← first
          return (n, some n, s)

private def repeatCounted (p : Progress) : Except PatternError Progress := do
  let (body, before) ← repeatable p
  match ← readCounts p.verbose p.rest with
  | (least, most, '}' :: s) =>
      let (greedy, rest) := match skip p.verbose s with
        | '?' :: s => (false, s)
        | s => (true, s)
      if most.any (· < least) then fail .backwardCount p.rest rest
      else
        let part := Tree.repeated body least most greedy ⟨body.place.start, rest⟩
        return { p with rest, parts := part :: before }
  | (_, _, s) => fail .unclosedCount p.rest s

private def addAtom (p : Progress) (read : Atom × List Char) : Progress :=
  { p with rest := read.2, parts := .atom read.1 ⟨p.rest, read.2⟩ :: p.parts }

/-- Reads what the next character starts. -/
private def advance (p : Progress) (c : Char) (s : List Char) : Except PatternError Progress :=
  match c with
  | '(' => readGroup p p.rest s
  | ')' => closeGroup p s
  | '|' => .ok (nextBranch p s)
  | '[' => (readClass p.verbose p.rest).map fun (body, rest) =>
      let (negated, body) := match body with
        | .bracketed negated body _ => (negated, body)
        | body => (false, body)
      { p with rest, parts := .bracketed negated body ⟨p.rest, rest⟩ :: p.parts }
  | '?' => repeatOnce p 0 (some 1) s
  | '*' => repeatOnce p 0 none s
  | '+' => repeatOnce p 1 none s
  | '{' => repeatCounted p
  | '\\' => (escape p.verbose s).map (addAtom p)
  | '.' => .ok (addAtom p (.dot, s))
  | '^' => .ok (addAtom p (.assertion .lineStart, s))
  | '$' => .ok (addAtom p (.assertion .lineEnd, s))
  | c => .ok (addAtom p (.literal ⟨c, false⟩, s))

private def finish (p : Progress) : Except PatternError Tree :=
  match alternationOf p with
  | (_, .group place _ _ _ _ :: _) => failNext .unclosedGroup place
  | (tree, _) => .ok tree

private def readLoop (p : Progress) : Except PatternError (Tree × List (String × Nat)) :=
  match skip p.verbose p.rest with
  | [] =>
      (finish { p with rest := [] }).map fun t =>
        (t, p.names.map fun (name, index, _) => (name, index))
  | c :: s =>
      match advance { p with rest := c :: s } c s with
      | .error e => .error e
      | .ok p' =>
          if p'.rest.length < p.rest.length then readLoop p'
          else fail .unclosedGroup p.rest p'.rest
termination_by p.rest.length

def maxDepth : Nat := 250

/-- Reads a pattern, with the indices of the groups that have a name. -/
def readTree (source : String) : Except PatternError (Tree × List (String × Nat)) := do
  let text := source.toList
  let (tree, names) ← readLoop { rest := text, start := text }
  match tree.below? maxDepth with
  | some place => fail .tooDeep place.start place.stop
  | none => return (tree, names)

end Linewise.Pattern
