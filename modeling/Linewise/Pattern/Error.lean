/-!
What can be wrong with a pattern, and where. A place in a pattern is what is left of the text there.
-/
namespace Linewise

namespace Pattern

/-- A stretch of a pattern, by the places where it starts and stops. -/
structure Stretch where
  start : List Char
  stop : List Char
deriving DecidableEq, Repr

inductive Fault
  | unclosedClass
  | backwardClassRange
  | classRangeOfClass
  | assertionInClass
  | unclosedGroup
  | unopenedGroup
  | emptyGroupName
  | invalidGroupName
  | unclosedGroupName
  | duplicateGroupName
  | unknownFlag
  | duplicateFlag
  | danglingFlagNegation
  | repeatedFlagNegation
  | unfinishedFlags
  | lookAround
  | backreference
  | unknownEscape
  | unfinishedEscape
  | invalidHexDigit
  | emptyHex
  | hexNotAScalar
  | invalidPropertyName
  | unknownProperty
  | unknownPropertyValue
  | unicodeNotAllowed
  | nothingToRepeat
  | unclosedCount
  | missingCount
  | backwardCount
  | hugeCount
  | nonUtf8
  | unknownWordBoundary
  | unclosedWordBoundary
  | braceAfterWordBoundary
  | tooDeep
deriving DecidableEq, Repr

def Fault.text : Fault → String
  | unclosedClass => "unclosed character class"
  | backwardClassRange => "invalid character class range, the start must be <= the end"
  | classRangeOfClass => "invalid range boundary, must be a literal"
  | assertionInClass => "invalid escape sequence found in character class"
  | unclosedGroup => "unclosed group"
  | unopenedGroup => "unopened group"
  | emptyGroupName => "empty capture group name"
  | invalidGroupName => "invalid capture group character"
  | unclosedGroupName => "unclosed capture group name"
  | duplicateGroupName => "duplicate capture group name"
  | unknownFlag => "unrecognized flag"
  | duplicateFlag => "duplicate flag"
  | danglingFlagNegation => "dangling flag negation operator"
  | repeatedFlagNegation => "flag negation operator repeated"
  | unfinishedFlags => "expected flag but got end of regex"
  | lookAround => "look-around, including look-ahead and look-behind, is not supported"
  | backreference => "backreferences are not supported"
  | unknownEscape => "unrecognized escape sequence"
  | unfinishedEscape => "incomplete escape sequence, reached end of pattern prematurely"
  | invalidHexDigit => "invalid hexadecimal digit"
  | emptyHex => "hexadecimal literal empty"
  | hexNotAScalar => "hexadecimal literal is not a Unicode scalar value"
  | invalidPropertyName => "invalid Unicode character class"
  | unknownProperty => "Unicode property not found"
  | unknownPropertyValue => "Unicode property value not found"
  | unicodeNotAllowed => "Unicode not allowed here"
  | nothingToRepeat => "repetition operator missing expression"
  | unclosedCount => "unclosed counted repetition"
  | missingCount => "repetition quantifier expects a valid decimal"
  | backwardCount => "invalid repetition count range, the start must be <= the end"
  | hugeCount => "decimal literal invalid"
  | nonUtf8 => "pattern can match invalid UTF-8"
  | unknownWordBoundary =>
      "unrecognized special word boundary assertion, " ++
        "valid choices are: start, end, start-half or end-half"
  | unclosedWordBoundary =>
      "special word boundary assertion is either unclosed or contains an invalid character"
  | braceAfterWordBoundary =>
      "found either the beginning of a special word boundary or a bounded repetition " ++
        "on a \\b with an opening brace, but no closing brace"
  | tooDeep => "exceed the maximum number of nested parentheses/brackets (250)"

end Pattern

inductive PatternError
  /-- A fault at a stretch; of what may stand only once, also where it stood before. -/
  | faulty (fault : Pattern.Fault) (place : Pattern.Stretch) (earlier : Option Pattern.Stretch)
  | tooLarge
deriving DecidableEq, Repr

namespace Pattern

variable {α : Type}

/-- Fails with a fault at a stretch. -/
def fail (fault : Fault) (start stop : List Char) : Except PatternError α :=
  .error (.faulty fault ⟨start, stop⟩ none)

/-- Fails with a fault at the next character. -/
def failNext (fault : Fault) (s : List Char) : Except PatternError α := fail fault s (s.drop 1)

/-- Fails with a fault between two characters. -/
def failHere (fault : Fault) (s : List Char) : Except PatternError α := fail fault s s

end Pattern

end Linewise
