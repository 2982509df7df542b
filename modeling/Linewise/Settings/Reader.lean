import Linewise.Decimal.Shortest
import Linewise.Settings.Basic
import Linewise.Settings.Fault

/-!
The reader of settings, which are written as JSON: an object with the members `color` and `json`, or
a list of their values in this order. A fault is placed where reading stopped. A value that does not
belong where it stands is placed after the value around it has been read as far as it goes.
-/
namespace Linewise.Settings.Reader

/-- A fault on its way out, with the number of bytes not yet read when it arose. Without one it is
still to be placed. -/
structure Stop where
  cause : Cause
  unread : Option Nat

abbrev ByteReader := ExceptT Stop (StateM (List UInt8))

private def byte (c : Char) : UInt8 := UInt8.ofNat c.toNat

private def peek : ByteReader (Option UInt8) := do return (← get).head?

private def take : ByteReader (Option UInt8) := do
  let s ← get
  set s.tail
  return s.head?

private def drop : ByteReader Unit := modify List.tail

/-- Fails after what was taken. -/
private def failBehind {α : Type} (cause : Cause) : ByteReader α := do
  throw ⟨cause, some (← get).length⟩

/-- Fails at the byte that comes next. -/
private def failAt {α : Type} (cause : Cause) : ByteReader α := do
  throw ⟨cause, some ((← get).length - 1)⟩

private def failUnplaced {α : Type} (cause : Cause) : ByteReader α := throw ⟨cause, none⟩

/-- Places a fault that has no place yet. -/
private def placed {α : Type} (r : ByteReader α) : ByteReader α :=
  tryCatch r fun stop => do
    match stop.unread with
    | some _ => throw stop
    | none => failBehind stop.cause

private def isBlank (b : UInt8) : Bool :=
  b == byte ' ' || b == byte '\n' || b == byte '\t' || b == byte '\r'

/-- The next byte after blanks. -/
private def peekPastBlanks : ByteReader (Option UInt8) := do
  modify fun s => s.dropWhile isBlank
  peek

/-- The rest of a keyword whose first letter was taken. -/
private def keywordRest : List Char → ByteReader Unit
  | [] => return ()
  | c :: cs => do
      match ← take with
      | none => failBehind .endInValue
      | some b => if b == byte c then keywordRest cs else failBehind .noKeyword

private def hexValue? (b : UInt8) : Option Nat :=
  let n := b.toNat
  if 0x30 ≤ n ∧ n ≤ 0x39 then some (n - 0x30)
  else if 0x41 ≤ n ∧ n ≤ 0x46 then some (n - 0x41 + 10)
  else if 0x61 ≤ n ∧ n ≤ 0x66 then some (n - 0x61 + 10)
  else none

/-- Four hexadecimal digits. -/
private def fourHex : ByteReader Nat := do
  match ← get with
  | a :: b :: c :: d :: rest =>
      set rest
      match [a, b, c, d].mapM hexValue? with
      | some digits => return digits.foldl (fun n v => 16 * n + v) 0
      | none => failBehind .badEscape
  | _ =>
      set ([] : List UInt8)
      failBehind .endInString

/-- The byte that must follow the first half of a surrogate pair. -/
private def expectInPair (c : Char) : ByteReader Unit := do
  match ← peek with
  | none => failBehind .endInString
  | some b =>
      drop
      if b != byte c then failBehind .halfSurrogatePair

/-- The character after `\u`. Code units of a pair stand for one character. -/
private def hexEscape : ByteReader Char := do
  let first ← fourHex
  if 0xDC00 ≤ first ∧ first ≤ 0xDFFF then failBehind .loneSurrogate
  if first < 0xD800 ∨ 0xDBFF < first then return Char.ofNat first
  expectInPair '\\'
  expectInPair 'u'
  let second ← fourHex
  if second < 0xDC00 ∨ 0xDFFF < second then failBehind .loneSurrogate
  return Char.ofNat ((first - 0xD800) * 0x400 + (second - 0xDC00) + 0x10000)

private def escape : ByteReader (List UInt8) := do
  match ← take with
  | none => failBehind .endInString
  | some b =>
      match Char.ofNat b.toNat with
      | '"' => return [byte '"']
      | '\\' => return [byte '\\']
      | '/' => return [byte '/']
      | 'b' => return [8]
      | 'f' => return [12]
      | 'n' => return [10]
      | 'r' => return [13]
      | 't' => return [9]
      | 'u' => return (String.singleton (← hexEscape)).toUTF8.toList
      | _ => failBehind .badEscape

/-- The bytes of a string up to its closing quote; each round takes a byte at least. -/
private def stringBytes : Nat → ByteReader (List UInt8)
  | 0 => failBehind .endInString
  | rounds + 1 => do
      match ← take with
      | none => failBehind .endInString
      | some b =>
          if b == byte '"' then return []
          else if b == byte '\\' then
            let bytes ← escape
            return bytes ++ (← stringBytes rounds)
          else if b < 0x20 then failBehind .controlCharacter
          else return b :: (← stringBytes rounds)

/-- A string whose opening quote was taken. -/
private def stringRest : ByteReader String := do
  let bytes ← stringBytes ((← get).length + 1)
  return (String.fromUTF8? (ByteArray.mk bytes.toArray)).getD ""

private def isDigit (b : UInt8) : Bool := byte '0' ≤ b && b ≤ byte '9'

private def peekIs (p : UInt8 → Bool) : ByteReader Bool := do return (← peek).any p

private def takeDigits : ByteReader (List Nat) := do
  let s ← get
  set (s.dropWhile isDigit)
  return (s.takeWhile isDigit).map fun b => b.toNat - 0x30

/-- Adds digits to a number as long as it stays below a limit; with the number of digits used, and
of those left over. -/
private def fit (limit n : Nat) : List Nat → Nat × Nat × Nat
  | [] => (n, 0, 0)
  | d :: ds =>
      if 10 * n + d < limit then
        let (m, used, left) := fit limit (10 * n + d) ds
        (m, used + 1, left)
      else (n, 0, ds.length + 1)

/-- The limit of the digits of a number; what goes beyond it counts as a power of ten. -/
private def limit : Nat := 18446744073709551616

private def powerOfTen (n : Nat) : Float := Float.ofScientific 1 false n

/-- `significand * 10 ^ exponent`, in the steps of floating-point arithmetic. -/
private def scale (positive : Bool) (significand : Nat) (exponent : Int) : ByteReader Found := do
  let f := Float.ofNat significand
  let result : Option Float :=
    if 0 ≤ exponent then
      if exponent ≤ 308 then
        let x := f * powerOfTen exponent.toNat
        if x.isInf then none else some x
      else if significand = 0 then some 0 else none
    else
      let rec down : Nat → Float → Nat → Float
        | 0, x, _ => x
        | rounds + 1, x, n =>
            if n ≤ 308 then x / powerOfTen n
            else if x == 0 then x
            else down rounds (x / powerOfTen 308) (n - 308)
      some (down 8 f (-exponent).toNat)
  match result with
  | none => failBehind .hugeNumber
  | some x => return .float (Decimal.ofFloat (if positive then x else -x))

/-- The exponent of a number, given what its digits and its fraction say. -/
private def exponentPart (positive : Bool) (significand : Nat) (exponent : Int) :
    ByteReader Found := do
  drop
  let up ←
    if ← peekIs (· == byte '+') then do
      drop
      pure true
    else if ← peekIs (· == byte '-') then do
      drop
      pure false
    else pure true
  match ← take with
  | none => failBehind .endInValue
  | some b =>
      if !isDigit b then failBehind .badNumber
      let s ← get
      let (value, used, left) := fit 2147483648 (b.toNat - 0x30) (← takeDigits)
      if left != 0 then
        if significand != 0 && up then
          set (s.drop (used + 1))
          failBehind .hugeNumber
        return .float (if positive then "0.0" else "-0.0")
      scale positive significand (if up then exponent + value else exponent - value)

private def isExponent (b : UInt8) : Bool := b == byte 'e' || b == byte 'E'

private def fractionPart (positive : Bool) (significand : Nat) (exponent : Int) :
    ByteReader Found := do
  drop
  let digits ← takeDigits
  if digits.isEmpty then
    if (← peek).isSome then failAt .badNumber else failAt .endInValue
  let (significand, used, _) := fit limit significand digits
  if ← peekIs isExponent then exponentPart positive significand (exponent - used)
  else scale positive significand (exponent - used)

/-- A number, its sign read before. -/
private def number (positive : Bool) : ByteReader Found := do
  match ← take with
  | none => failBehind .endInValue
  | some b =>
      if !isDigit b then failBehind .badNumber
      if b == byte '0' then
        if ← peekIs isDigit then failAt .badNumber
      let digits ← takeDigits
      let (significand, _, left) := fit limit (b.toNat - 0x30) digits
      if ← peekIs (· == byte '.') then fractionPart positive significand left
      else if ← peekIs isExponent then exponentPart positive significand left
      else if left != 0 then scale positive significand left
      else if positive then return .integer significand
      else if significand = 0 ∨ 9223372036854775808 < significand then
        return .float (Decimal.ofFloat (-(Float.ofNat significand)))
      else return .integer (-significand)

/-- Fails on a value that stands where another one belongs. -/
private def unexpected {α : Type} (expected : String) : ByteReader α := placed do
  let wrong (found : Found) : ByteReader α := failUnplaced (.wrongType found expected)
  match ← peek with
  | none => failAt .noValue
  | some b =>
      if isDigit b then wrong (← number true)
      else match Char.ofNat b.toNat with
        | 'n' => do drop; keywordRest ['u', 'l', 'l']; wrong .null
        | 't' => do drop; keywordRest ['r', 'u', 'e']; wrong (.boolean true)
        | 'f' => do drop; keywordRest ['a', 'l', 's', 'e']; wrong (.boolean false)
        | '-' => do drop; wrong (← number false)
        | '"' => do drop; wrong (.string (← stringRest))
        | '[' => wrong .sequence
        | '{' => wrong .map
        | _ => failAt .noValue

private def bool : ByteReader Bool := do
  match (← peekPastBlanks).map fun b => Char.ofNat b.toNat with
  | none => failAt .endInValue
  | some 't' => do drop; keywordRest ['r', 'u', 'e']; return true
  | some 'f' => do drop; keywordRest ['a', 'l', 's', 'e']; return false
  | some _ => unexpected "a boolean"

private def null : ByteReader Unit := do
  match (← peekPastBlanks).map fun b => Char.ofNat b.toNat with
  | none => failAt .endInValue
  | some 'n' => do drop; keywordRest ['u', 'l', 'l']
  | some _ => unexpected "unit"

private def colorName : ByteReader ColorChoice := placed do
  drop
  let name ← stringRest
  match ColorChoice.named? name with
  | some choice => return choice
  | none => failUnplaced (.unknownColor name)

private def colon : ByteReader Unit := do
  match (← peekPastBlanks).map fun b => Char.ofNat b.toNat with
  | some ':' => drop
  | some _ => failAt .noColon
  | none => failAt .endInObject

/-- The only key of an object that stands for a color. -/
private def colorKey : ByteReader ColorChoice := do
  match (← peekPastBlanks).map fun b => Char.ofNat b.toNat with
  | some '"' => colorName
  | some '}' => failAt .noValue
  | some _ => failAt .keyNotString
  | none => failAt .endInObject

/-- A color: its name, or an object with the name as its only key and nothing as the value. -/
private def color : ByteReader ColorChoice := do
  match (← peekPastBlanks).map fun b => Char.ofNat b.toNat with
  | some '"' => colorName
  | some '{' => do
      drop
      let choice ← colorKey
      colon
      null
      match (← peekPastBlanks).map fun b => Char.ofNat b.toNat with
      | some '}' => do drop; return choice
      | some _ => failBehind .noValue
      | none => failBehind .endInObject
  | some _ => failAt .noValue
  | none => failAt .endInValue

private def anotherMember (first : Bool) : ByteReader Bool := do
  match (← peekPastBlanks).map fun b => Char.ofNat b.toNat with
  | none => failAt .endInObject
  | some '}' => return false
  | some c =>
      if first then
        if c = '"' then return true else failAt .keyNotString
      else if c != ',' then failAt .noCommaInObject
      else do
        drop
        match (← peekPastBlanks).map fun b => Char.ofNat b.toNat with
        | some '"' => return true
        | some '}' => failAt .trailingComma
        | some _ => failAt .keyNotString
        | none => failAt .endInValue

/-- The members of an object. Each can occur once, so there are two at most. -/
private def members : Nat → Option ColorChoice → Option Bool → ByteReader Settings
  | 0, c, j => return { color := c.getD .auto, json := j.getD false }
  | rounds + 1, c, j => do
      if !(← anotherMember (c.isNone && j.isNone)) then
        return { color := c.getD .auto, json := j.getD false }
      drop
      match ← stringRest with
      | "color" =>
          if c.isSome then failUnplaced (.duplicateField "color")
          colon
          members rounds (some (← color)) j
      | "json" =>
          if j.isSome then failUnplaced (.duplicateField "json")
          colon
          members rounds c (some (← bool))
      | name => failUnplaced (.unknownField name)

private def endObject : ByteReader Unit := do
  match (← peekPastBlanks).map fun b => Char.ofNat b.toNat with
  | some '}' => drop
  | some ',' => failAt .trailingComma
  | some _ => failAt .noCommaInObject
  | none => failAt .endInObject

private def anotherElement (first : Bool) : ByteReader Bool := do
  match (← peekPastBlanks).map fun b => Char.ofNat b.toNat with
  | none => failAt .endInList
  | some ']' => return false
  | some c =>
      if first then return true
      else if c != ',' then failAt .noCommaInList
      else do
        drop
        match (← peekPastBlanks).map fun b => Char.ofNat b.toNat with
        | some ']' => failAt .trailingComma
        | some _ => return true
        | none => failAt .endInValue

private def elements : ByteReader Settings := do
  if !(← anotherElement true) then return {}
  let c ← color
  if !(← anotherElement false) then return { color := c }
  return { color := c, json := ← bool }

private def endList : ByteReader Unit := do
  match (← peekPastBlanks).map fun b => Char.ofNat b.toNat with
  | some ']' => drop
  | some ',' => do
      drop
      match (← peekPastBlanks).map fun b => Char.ofNat b.toNat with
      | some ']' => failAt .trailingComma
      | _ => failAt .trailingText
  | some _ => failAt .trailingText
  | none => failAt .endInList

/-- Reads the inside and then the end of an object or list. The end is read even when the inside
failed, and the failure of the inside counts. -/
private def enclosed (inside : ByteReader Settings) (close : ByteReader Unit) :
    ByteReader Settings :=
  placed do
    drop
    let result ← tryCatch (Except.ok <$> inside) fun stop => return .error stop
    let closed ← tryCatch (Except.ok <$> close) fun stop => return .error stop
    match result, closed with
    | .error stop, _ => throw stop
    | .ok _, .error stop => throw stop
    | .ok settings, .ok _ => return settings

private def settings : ByteReader Settings := do
  let result ← match (← peekPastBlanks).map fun b => Char.ofNat b.toNat with
    | none => failAt .endInValue
    | some '{' => enclosed (members 3 none none) endObject
    | some '[' => enclosed elements endList
    | some _ => unexpected "struct Config"
  match ← peekPastBlanks with
  | none => return result
  | some _ => failAt .trailingText

end Reader

/-- The line and the column after the first bytes of a text. -/
private def placeAfter (taken : List UInt8) : Nat × Nat :=
  let lines := taken.filter (· == 10)
  let last := taken.reverse.takeWhile (· != 10)
  (lines.length + 1, last.length)

def read (text : String) : Except Fault Settings :=
  let bytes := text.toUTF8.toList
  match Reader.settings.run bytes with
  | (.ok s, _) => .ok s
  | (.error stop, left) =>
      let unread := stop.unread.getD left.length
      let (line, column) := placeAfter (bytes.take (bytes.length - unread))
      .error ⟨stop.cause, line, column⟩

end Linewise.Settings
