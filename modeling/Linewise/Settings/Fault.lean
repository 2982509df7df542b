import Linewise.Unicode.Debug

/-!
What can be wrong with a text of settings, and where.
-/
namespace Linewise.Settings

/-- A value that stands where another type belongs. -/
inductive Found
  | null
  | boolean (b : Bool)
  | integer (n : Int)
  /-- A number with a fraction or an exponent, or too large for an integer, as it is shown. -/
  | float (text : String)
  | string (s : String)
  | sequence
  | map
deriving DecidableEq, Repr

inductive Cause
  | endInList
  | endInObject
  | endInString
  | endInValue
  | noColon
  | noCommaInList
  | noCommaInObject
  | noValue
  | noKeyword
  | keyNotString
  | trailingComma
  | trailingText
  | badEscape
  | halfSurrogatePair
  | loneSurrogate
  | controlCharacter
  | badNumber
  | hugeNumber
  | unknownField (name : String)
  | duplicateField (name : String)
  | unknownColor (name : String)
  | wrongType (found : Found) (expected : String)
deriving DecidableEq, Repr

/-- The kinds of faults: the text ends too early, it is no JSON, or it is not about settings. -/
inductive FaultKind
  | ended
  | malformed
  | meaning
deriving DecidableEq, Repr

def Cause.kind : Cause → FaultKind
  | endInList | endInObject | endInString | endInValue => .ended
  | unknownField _ | duplicateField _ | unknownColor _ | wrongType _ _ => .meaning
  | _ => .malformed

def Found.describe : Found → String
  | null => "null"
  | boolean b => "boolean `" ++ (if b then "true" else "false") ++ "`"
  | integer n => "integer `" ++ toString n ++ "`"
  | float text => "floating point `" ++ text ++ "`"
  | string s => "string " ++ visible s
  | sequence => "sequence"
  | map => "map"

def Cause.message : Cause → String
  | endInList => "EOF while parsing a list"
  | endInObject => "EOF while parsing an object"
  | endInString => "EOF while parsing a string"
  | endInValue => "EOF while parsing a value"
  | noColon => "expected `:`"
  | noCommaInList => "expected `,` or `]`"
  | noCommaInObject => "expected `,` or `\x7d`"
  | noValue => "expected value"
  | noKeyword => "expected ident"
  | keyNotString => "key must be a string"
  | trailingComma => "trailing comma"
  | trailingText => "trailing characters"
  | badEscape => "invalid escape"
  | halfSurrogatePair => "unexpected end of hex escape"
  | loneSurrogate => "lone leading surrogate in hex escape"
  | controlCharacter => "control character (\\u0000-\\u001F) found while parsing a string"
  | badNumber => "invalid number"
  | hugeNumber => "number out of range"
  | unknownField name => "unknown field `" ++ name ++ "`, expected `color` or `json`"
  | duplicateField name => "duplicate field `" ++ name ++ "`"
  | unknownColor name =>
      "unknown variant `" ++ name ++ "`, expected one of `auto`, `always`, `never`"
  | wrongType found expected =>
      "invalid type: " ++ found.describe ++ ", expected " ++ expected

/-- A fault with its place: lines count from 1, and the column is the number of bytes of the line
that were read. -/
structure Fault where
  cause : Cause
  line : Nat
  column : Nat
deriving DecidableEq, Repr

def Fault.message (f : Fault) : String :=
  f.cause.message ++ " at line " ++ toString f.line ++ " column " ++ toString f.column

end Linewise.Settings
