import Linewise.Proofs.Rule.Runs
import Mathlib.Data.List.Induction

/-!
Numbers of lines as they are written: decimal digits, after any zeros, and after a hyphen when the
number counts from the end. The reader takes back the number that was written, and what it takes is
always so written.
-/
namespace Linewise

/-- The digits of a number after any zeros. -/
def IsNumeral (n : Nat) (d : List Char) : Prop :=
  ∃ k, d = List.replicate k '0' ++ Nat.toDigits 10 n

/-- A number that may be negative, after a hyphen then. -/
def IsSignedNumeral (n : Int) (d : List Char) : Prop :=
  ∃ e, IsNumeral n.natAbs e ∧ (0 ≤ n ∧ d = e ∨ n ≤ 0 ∧ d = '-' :: e)

theorem isNumeral_toDigits (n : Nat) : IsNumeral n (Nat.toDigits 10 n) := ⟨0, rfl⟩

theorem IsNumeral.isDigit {n : Nat} {d : List Char} (h : IsNumeral n d) :
    ∀ c ∈ d, c.isDigit = true := by
  obtain ⟨k, rfl⟩ := h
  intro c hc
  obtain hc | hc := List.mem_append.1 hc
  · rw [List.eq_of_mem_replicate hc]
    rfl
  · exact Nat.isDigit_of_mem_toDigits (by decide) (by decide) hc

theorem IsNumeral.ne_nil {n : Nat} {d : List Char} (h : IsNumeral n d) : d ≠ [] := by
  obtain ⟨k, rfl⟩ := h
  simp

theorem IsNumeral.ofDigitChars {n : Nat} {d : List Char} (h : IsNumeral n d) :
    Nat.ofDigitChars 10 d 0 = n := by
  obtain ⟨k, rfl⟩ := h
  simp [Nat.ofDigitChars_append]

theorem toDigits_of_isDigit {c : Char} (h : c.isDigit = true) :
    c.toNat - '0'.toNat < 10 ∧ Nat.toDigits 10 (c.toNat - '0'.toNat) = [c] := by
  obtain ⟨h₀, h₉⟩ := Char.isDigit_iff_toNat.1 h
  have hlt : c.toNat - '0'.toNat < 10 := by
    change c.toNat ≤ 57 at h₉
    change c.toNat - 48 < 10
    omega
  refine ⟨hlt, ?_⟩
  have hc : (c.toNat - '0'.toNat).digitChar = c := by
    apply Char.toNat_inj.1
    rw [Nat.toNat_digitChar_of_lt_ten hlt]
    change 48 ≤ c.toNat at h₀
    change 48 + (c.toNat - 48) = c.toNat
    omega
  rw [Nat.toDigits_of_lt_base hlt, hc]

/-- Every run of digits is a numeral of its value. -/
theorem isNumeral_ofDigitChars {d : List Char} (hne : d ≠ []) (hd : ∀ c ∈ d, c.isDigit = true) :
    IsNumeral (Nat.ofDigitChars 10 d 0) d := by
  induction d using List.reverseRecOn with
  | nil => exact absurd rfl hne
  | append_singleton e c ih =>
      obtain ⟨hlt, hc⟩ := toDigits_of_isDigit (hd c (by simp))
      have hv : Nat.ofDigitChars 10 (e ++ [c]) 0 =
          10 * Nat.ofDigitChars 10 e 0 + (c.toNat - '0'.toNat) := by
        rw [Nat.ofDigitChars_append, Nat.ofDigitChars_cons, Nat.ofDigitChars_nil]
      rw [hv]
      by_cases he : e = []
      · subst he
        refine ⟨0, ?_⟩
        simpa using hc.symm
      · obtain ⟨k, hk⟩ := ih he fun x hx => hd x (by simp [hx])
        rcases Nat.eq_zero_or_pos (Nat.ofDigitChars 10 e 0) with h₀ | h₀
        · -- All digits before the last one are zeros, of which the numeral of 0 is one.
          refine ⟨k + 1, ?_⟩
          rw [h₀, Nat.toDigits_zero] at hk
          rw [h₀, Nat.mul_zero, Nat.zero_add, hc, List.replicate_succ', ← hk]
        · refine ⟨k, ?_⟩
          rw [← Nat.toDigits_append_toDigits (by decide) h₀ hlt, ← List.append_assoc, ← hk, hc]

namespace Reader

theorem numeral?_append {n : Nat} {d rest : List Char} (h : IsNumeral n d)
    (hn : n ≤ maxLineNumber) (hr : ∀ c ∈ rest.head?, c.isDigit = false) :
    numeral? (d ++ rest) = some (n, rest) := by
  have hv := h.ofDigitChars
  rw [Nat.ofDigitChars_eq_foldl] at hv
  simp only [numeral?, takeWhile_run h.isDigit hr, dropWhile_run h.isDigit hr, hv, h.ne_nil,
    false_or]
  rw [if_neg (Nat.not_lt.2 hn)]

/-- What is read as a number is a numeral of it, and no digit follows. -/
theorem isNumeral_of_numeral? {n : Nat} {s rest : List Char} (h : numeral? s = some (n, rest)) :
    (∃ d, s = d ++ rest ∧ IsNumeral n d) ∧ n ≤ maxLineNumber ∧
      ∀ c ∈ rest.head?, c.isDigit = false := by
  simp only [numeral?] at h
  split at h
  · cases h
  · rename_i hc
    obtain ⟨hne, hmax⟩ := not_or.1 hc
    cases h
    refine ⟨⟨s.takeWhile Char.isDigit, List.takeWhile_append_dropWhile.symm, ?_⟩,
      Nat.not_lt.1 hmax, head?_dropWhile _ s⟩
    exact isNumeral_ofDigitChars hne fun c hc => List.mem_takeWhile_imp hc

end Reader

end Linewise
