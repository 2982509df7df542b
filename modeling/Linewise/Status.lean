import Linewise.Unicode.Classes

/-!
The exit status of the previous command, as text. Two statuses are the same when they agree without
the white space around them, or when both are numbers of 64 bits and equal.
-/
namespace Linewise

/-- A text without the white space at its ends. -/
def trimWhite (s : String) : List Char :=
  ((s.toList.dropWhile isWhite).reverse.dropWhile isWhite).reverse

namespace Status

/-- The number that digits say; a sign is none of them. -/
def magnitude? (digits : List Char) : Option Nat :=
  if digits ≠ [] ∧ digits.all Char.isDigit then
    some (digits.foldl (fun n d => 10 * n + (d.toNat - '0'.toNat)) 0)
  else none

/-- The number that a text is, with an optional sign, if it fits in 64 bits. -/
def number? (s : List Char) : Option Int :=
  let value : Option Int := match s with
    | '-' :: digits => (magnitude? digits).map fun n => -(n : Int)
    | '+' :: digits => (magnitude? digits).map fun n => (n : Int)
    | digits => (magnitude? digits).map fun n => (n : Int)
  value.filter fun n => -9223372036854775808 ≤ n ∧ n ≤ 9223372036854775807

def same (a b : String) : Bool :=
  let a := trimWhite a
  let b := trimWhite b
  a == b ||
    match number? a, number? b with
    | some m, some n => m == n
    | _, _ => false

/-- Whether a status is known and is the one with the given code. -/
def holds (status : Option String) (code : String) : Bool := status.any (same · code)

end Status

end Linewise
