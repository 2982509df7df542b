import Linewise.Unicode.Property
import Linewise.Unicode.Table.Addition

/-!
The classes of characters that the rule language distinguishes. ASCII is decided without a table. The
letters and numbers of rules are those of Unicode 17.0; the properties that a pattern may name stay
with Unicode 16.0.
-/
namespace Linewise

/-- White space: the property White_Space. -/
def isWhite (c : Char) : Bool :=
  let n := c.toNat
  (0x9 ≤ n && n ≤ 0xD) || n == 0x20 || n == 0x85 || n == 0xA0 || n == 0x1680 ||
    (0x2000 ≤ n && n ≤ 0x200A) || n == 0x2028 || n == 0x2029 || n == 0x202F || n == 0x205F ||
    n == 0x3000

/-- White space between the parts of a rule: blank, tab, carriage return and line feed only. -/
def isLayout (c : Char) : Bool := c == ' ' || c == '\t' || c == '\r' || c == '\n'

private def alphabeticCodes : CodeSet :=
  Unicode.alphabetic.union (CodeSet.ofTable Unicode.Table.newAlphabetic)

private def letterOrNumberCodes : CodeSet :=
  CodeSet.unions
    [alphabeticCodes, Unicode.categoryUnion "N", CodeSet.ofTable Unicode.Table.newDigits]

private def uppercaseCodes : CodeSet :=
  Unicode.uppercase.union (CodeSet.ofTable Unicode.Table.newUppercase)

def isAlphabetic (c : Char) : Bool :=
  if c.toNat < 0x80 then c.isAlpha else alphabeticCodes.contains c

/-- An alphabetic character or a number of any kind. White space is neither, so that it is not looked
up. -/
def isLetterOrNumber (c : Char) : Bool :=
  if c.toNat < 0x80 then c.isAlphanum else !isWhite c && letterOrNumberCodes.contains c

def isUppercase (c : Char) : Bool :=
  if c.toNat < 0x80 then c.isUpper else uppercaseCodes.contains c

/-- A character that continues a keyword: a letter, a number or an underscore. -/
def isWordChar (c : Char) : Bool := c == '_' || isLetterOrNumber c

theorem isWhite_of_isLayout {c : Char} (h : isLayout c = true) : isWhite c = true := by
  simp only [isLayout, Bool.or_eq_true, beq_iff_eq] at h
  obtain ((rfl | rfl) | rfl) | rfl := h <;> rfl

theorem le_toNat_of_isAlphanum {c : Char} (h : c.isAlphanum = true) : '0'.toNat ≤ c.toNat := by
  obtain h | h := Bool.or_eq_true_iff.1 h
  · obtain h | h := Bool.or_eq_true_iff.1 h
    · exact Nat.le_trans (by decide) (UInt32.le_iff_toNat_le.1 (of_decide_eq_true h).1)
    · have ha := of_decide_eq_true (Bool.and_eq_true_iff.1 h).1
      exact Nat.le_trans (by decide) (UInt32.le_iff_toNat_le.1 ha)
  · exact (Char.isDigit_iff_toNat.1 h).1

theorem not_isAlphanum_of_isWhite {c : Char} (h : isWhite c = true) (hc : c.toNat < 0x80) :
    c.isAlphanum = false := by
  rw [Bool.eq_false_iff]
  intro ha
  have h₀ : 48 ≤ c.toNat := le_toNat_of_isAlphanum ha
  simp only [isWhite, Bool.or_eq_true, Bool.and_eq_true, decide_eq_true_eq, beq_iff_eq] at h
  omega

/-- White space ends a word. -/
theorem not_isWordChar_of_isWhite {c : Char} (h : isWhite c = true) : isWordChar c = false := by
  have hu : c ≠ '_' := by rintro rfl; exact absurd h (by decide)
  by_cases hc : c.toNat < 0x80
  · simp [isWordChar, isLetterOrNumber, hu, hc, not_isAlphanum_of_isWhite h hc]
  · simp [isWordChar, isLetterOrNumber, hu, hc, h]

end Linewise
