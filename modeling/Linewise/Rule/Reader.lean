import Linewise.Rule.Basic
import Linewise.Rule.Reading
import Linewise.Unicode.Classes
import Linewise.Unicode.Utf8

/-!
The rule language. A rule is read by the first of eight readers that does not refuse; their leading
words tell them apart. Free text runs to the end of the input at top level, and to a separator or a
closing brace inside a block. A rule and a block read each other, on ever shorter text.
-/
namespace Linewise

/-- Where a rule stands, which decides how free text ends. -/
inductive Scope
  | top
  | block
deriving DecidableEq, Repr

/-- White space and semicolons separate the rules of a block. -/
def isSeparator (c : Char) : Bool := isWhite c || c == ';'

def Scope.endsText : Scope → Char → Bool
  | top, _ => false
  | block, c => isSeparator c || c == '}'

namespace Reader

/-- What follows a word at the front of a text. -/
def after? : List Char → List Char → Option (List Char)
  | [], s => some s
  | w :: ws, c :: s => if w = c then after? ws s else none
  | _ :: _, [] => none

theorem after?_eq_some_iff {word s rest : List Char} :
    after? word s = some rest ↔ s = word ++ rest := by
  induction word generalizing s with
  | nil => simp [after?]
  | cons w ws ih =>
      cases s with
      | nil => simp [after?]
      | cons c s =>
          by_cases h : w = c
          · simp [after?, h, ih]
          · simp [after?, h, Ne.symm h]

theorem length_of_after? {word s rest : List Char} (h : after? word s = some rest) :
    s.length = word.length + rest.length := by
  simp [after?_eq_some_iff.1 h]

/-- What follows a word that does not run into a further letter, number or underscore. -/
def keyword? (word s : List Char) : Option (List Char) :=
  (after? word s).filter fun rest => !(rest.head?.any isWordChar)

def skipLayout (s : List Char) : List Char := s.dropWhile isLayout

def skipSeparators (s : List Char) : List Char := s.dropWhile isSeparator

theorem length_skipLayout_le (s : List Char) : (skipLayout s).length ≤ s.length :=
  (List.dropWhile_sublist _).length_le

theorem length_skipSeparators_le (s : List Char) : (skipSeparators s).length ≤ s.length :=
  (List.dropWhile_sublist _).length_le

/-- Free text up to an unescaped slash or a character that ends it, and what is left. An escaped
slash becomes a slash; every other escape is kept as it stands, and so is a backslash at the end. -/
def text (ends : Char → Bool) : List Char → List Char × List Char
  | [] => ([], [])
  | ['\\'] => (['\\'], [])
  | '\\' :: c :: s =>
      let (t, rest) := text ends s
      (if c = '/' then '/' :: t else '\\' :: c :: t, rest)
  | c :: s =>
      if c = '/' ∨ ends c then ([], c :: s)
      else
        let (t, rest) := text ends s
        (c :: t, rest)

theorem length_text_le (ends : Char → Bool) (s : List Char) :
    (text ends s).2.length ≤ s.length := by
  fun_induction text ends s <;> simp_all <;> omega

/-- A pattern up to its slash, which is dropped. A pattern has at least one character. -/
def patternThen (missing unclosed : Expected) (s : List Char) : Reading String :=
  match text (fun _ => false) s with
  | ([], rest) => .failed rest missing
  | (p, '/' :: rest) => .read (String.ofList p) rest
  | (_, rest) => .failed rest unclosed

def closedPattern (s : List Char) : Reading String := patternThen .pattern .closingSlash s

theorem length_of_patternThen {missing unclosed : Expected} {s rest : List Char} {p : String}
    (h : patternThen missing unclosed s = .read p rest) : rest.length < s.length := by
  have hs := length_text_le (fun _ => false) s
  unfold patternThen at h
  split at h
  · cases h
  · rename_i heq
    cases h
    rw [heq, List.length_cons] at hs
    omega
  · cases h

/-- The number at the front of a text, if there is one and it can be the number of a line. -/
def numeral? (s : List Char) : Option (Nat × List Char) :=
  let digits := s.takeWhile Char.isDigit
  let value := digits.foldl (fun n d => 10 * n + (d.toNat - '0'.toNat)) 0
  if digits = [] ∨ maxLineNumber < value then none
  else some (value, s.dropWhile Char.isDigit)

/-- A number, or its negative after a hyphen. -/
def signed (s : List Char) : Reading Int :=
  match s with
  | '-' :: s =>
      match numeral? s with
      | some (n, rest) => .read (-n) rest
      | none => .refused s
  | s =>
      match numeral? s with
      | some (n, rest) => .read n rest
      | none => .refused s

/-- Two numbers with a hyphen between them. -/
def range? (s : List Char) : Option (LineSpec × List Char) :=
  match numeral? s with
  | some (a, '-' :: s) => (numeral? s).map fun (b, rest) => (.range a b, rest)
  | _ => none

def lineSpec (s : List Char) : Reading LineSpec :=
  match range? s with
  | some (spec, rest) => .read spec rest
  | none => (signed s).map .index

/-- The part of a print rule after its keyword. -/
def selector : List Char → Reading (Rule String)
  | ':' :: s => ((lineSpec s).orFail .lineSpec).map .keepLines
  | '/' :: s => (closedPattern s).map .keepMatching
  | s => .refused s

def longPrintRule (s : List Char) : Reading (Rule String) :=
  match after? ['p', 'r', 'i', 'n', 't'] s with
  | none => .refused s
  | some rest => (selector rest).orElse fun _ =>
      if rest.head?.any isWordChar then .refused rest else .read .keepAll rest

def shortPrintRule : List Char → Reading (Rule String)
  | 'p' :: s => selector s
  | s => .refused s

/-- One slash may close the replacement; it is dropped. -/
def substituteRule (scope : Scope) (s : List Char) : Reading (Rule String) :=
  let tail (everywhere : Bool) (s : List Char) :=
    (patternThen .pattern .slash s).andThen fun pattern s =>
      let (replacement, rest) := text scope.endsText s
      .read (.substitute pattern (String.ofList replacement) everywhere)
        (match rest with | '/' :: rest => rest | rest => rest)
  match s with
  | 's' :: '/' :: s => tail false s
  | 'g' :: '/' :: s => tail true s
  | s => .refused s

def setLineRule (scope : Scope) (s : List Char) : Reading (Rule String) :=
  match s with
  | 's' :: ':' :: s => ((signed s).orFail .lineNumber).andThen fun line s =>
      match s with
      | ':' :: s =>
          .read (.setLine line (String.ofList (s.takeWhile fun c => !scope.endsText c)))
            (s.dropWhile fun c => !scope.endsText c)
      | s => .failed s .colon
  | s => .refused s

/-- Of the three words the last one alone is left behind when a letter follows it. -/
def arrangeRule (s : List Char) : Reading (Rule String) :=
  match keyword? ['s', 'o', 'r', 't'] s with
  | some rest => .read (.arrange .sort) rest
  | none =>
  match keyword? ['r', 'e', 'v', 'e', 'r', 's', 'e'] s with
  | some rest => .read (.arrange .reverse) rest
  | none =>
  match after? ['j', 'o', 'i', 'n'] s with
  | some rest => if rest.head?.any isWordChar then .refused rest else .read (.arrange .join) rest
  | none => .refused s

def isCodeChar (c : Char) : Bool := !isWhite c && c != '{'

/-- The code of a status rule: what comes before white space and an opening brace. -/
def statusCode (s : List Char) : Reading String :=
  match s.takeWhile isCodeChar with
  | [] => .failed s .statusCode
  | code => .read (String.ofList code) (s.dropWhile isCodeChar)

theorem length_of_statusCode {s rest : List Char} {code : String}
    (h : statusCode s = .read code rest) : rest.length ≤ s.length := by
  unfold statusCode at h
  split at h
  · cases h
  · cases h
    exact (List.dropWhile_sublist _).length_le

set_option linter.unusedVariables false

mutual

/-- The first reader that does not refuse decides. -/
def rule (scope : Scope) (s : List Char) : Reading (Rule String) :=
  (ifRule s).orElse fun _ =>
  (betweenRule s).orElse fun _ =>
  (statusRule s).orElse fun _ =>
  (longPrintRule s).orElse fun _ =>
  (shortPrintRule s).orElse fun _ =>
  (substituteRule scope s).orElse fun _ =>
  (setLineRule scope s).orElse fun _ =>
  arrangeRule s
termination_by 3 * s.length + 1

def ifRule (s : List Char) : Reading (Rule String) :=
  match h : after? ['i', 'f', '/'] s with
  | none => .refused s
  | some s₁ =>
  match h₁ : closedPattern s₁ with
  | .read pattern s₂ => ((block (skipLayout s₂)).orFail .openBrace).map (.ifMatch pattern)
  | .refused rest => .refused rest
  | .failed rest e => .failed rest e
termination_by 3 * s.length
decreasing_by
  have := length_of_after? h
  have := length_of_patternThen h₁
  have := length_skipLayout_le s₂
  omega

def betweenRule (s : List Char) : Reading (Rule String) :=
  match h : after? ['b', 'e', 't', 'w', 'e', 'e', 'n', '/'] s with
  | none => .refused s
  | some s₁ =>
  match h₁ : patternThen .startPattern .slash s₁ with
  | .read start s₂ =>
      match h₂ : closedPattern s₂ with
      | .read stop s₃ => ((block (skipLayout s₃)).orFail .openBrace).map (.between start stop)
      | .refused rest => .refused rest
      | .failed rest e => .failed rest e
  | .refused rest => .refused rest
  | .failed rest e => .failed rest e
termination_by 3 * s.length
decreasing_by
  have := length_of_after? h
  have := length_of_patternThen h₁
  have := length_of_patternThen h₂
  have := length_skipLayout_le s₃
  omega

/-- An `else` is looked for after the block, in text that is shorter still. -/
def statusRule (s : List Char) : Reading (Rule String) :=
  match h : after? ['s', 't', 'a', 't', 'u', 's', ':'] s with
  | none => .refused s
  | some s₁ =>
  match h₁ : statusCode s₁ with
  | .read code s₂ =>
      ((block (skipLayout s₂)).orFail .openBrace).andThen fun body s₃ =>
        match h₃ : keyword? ['e', 'l', 's', 'e'] (skipLayout s₃) with
        | some s₄ =>
            if s₄.length < s.length then
              ((block (skipLayout s₄)).orFail .openBrace).map (.onStatus code body)
            else .read (.onStatus code body []) s₃
        | none => .read (.onStatus code body []) s₃
  | .refused rest => .refused rest
  | .failed rest e => .failed rest e
termination_by 3 * s.length
decreasing_by
  · have hs := length_of_after? h
    have := length_of_statusCode h₁
    have := length_skipLayout_le s₂
    simp only [List.length_cons] at hs
    omega
  · have := length_skipLayout_le s₄
    omega

/-- A block in braces. It refuses what does not start with a brace. -/
def block (s : List Char) : Reading (List (Rule String)) :=
  match s with
  | '{' :: s => rulesThenBrace s
  | s => .refused s
termination_by 3 * s.length

/-- Rules up to the closing brace. A rule that consumes nothing would end them. -/
def rulesThenBrace (s : List Char) : Reading (List (Rule String)) :=
  match rule .block (skipSeparators s) with
  | .read r rest =>
      if rest.length < s.length then (rulesThenBrace rest).map (r :: ·)
      else .failed rest .ruleOrCloseBrace
  | .refused _ =>
      match skipSeparators s with
      | '}' :: rest => .read [] rest
      | rest => .failed rest .ruleOrCloseBrace
  | .failed rest e => .failed rest e
termination_by 3 * s.length + 2
decreasing_by
  · have := length_skipSeparators_le s
    omega
  · omega

end

end Reader

/-- Why a text is no rule: what should have stood after its first `column` characters, or nothing
when a whole rule was read and more text follows it. -/
structure ReadError where
  expected : Option Expected
  column : Nat
deriving DecidableEq, Repr

/-- The number of bytes before the failure. -/
def ReadError.offset (e : ReadError) (source : String) : Nat :=
  utf8Size (source.toList.take e.column)

/-- What was wrong, without the place. -/
def ReadError.reason (e : ReadError) : String :=
  match e.expected with
  | some what => "expected " ++ what.description
  | none => "unexpected character"

/-- The reason, the text, and a caret below it. -/
def ReadError.message (e : ReadError) (source : String) : String :=
  "parse error: " ++ e.reason ++ "\n  " ++ source ++ "\n  " ++
    String.ofList (List.replicate (e.offset source) ' ') ++ "^"

def Rule.read (source : String) : Except ReadError (Rule String) :=
  let s := source.toList
  let fail (expected : Option Expected) (rest : List Char) : Except ReadError (Rule String) :=
    .error ⟨expected, s.length - rest.length⟩
  match Reader.rule .top (Reader.skipLayout s) with
  | .read r rest =>
      match Reader.skipLayout rest with
      | [] => .ok r
      | left => fail none left
  | .refused rest => fail (some .rule) rest
  | .failed rest e => fail (some e) rest

end Linewise
