import Linewise.Proofs.Rule.Escape

/-!
Free text in tokens. A token is one character that stands for itself, or a backslash together with
the character after it, whatever that is. So of a run of backslashes the first, third and so on each
take the next character, even one that would end the text. Reading takes tokens as long as there are
any.
-/
namespace Linewise
namespace Reader

inductive Token
  | plain (c : Char)
  | escape (c : Char)
  /-- A backslash that the input ends after. -/
  | lone
deriving DecidableEq, Repr

namespace Token

def chars : Token → List Char
  | plain c => [c]
  | escape c => ['\\', c]
  | lone => ['\\']

/-- What reading makes of a token. -/
def kept : Token → List Char
  | plain c => [c]
  | escape c => if c = '/' then ['/'] else ['\\', c]
  | lone => ['\\']

/-- Whether a token may stand before the rest of the input. -/
def Before (ends : Char → Bool) : Token → List Char → Prop
  | plain c, _ => c ≠ '\\' ∧ c ≠ '/' ∧ ends c = false
  | escape _, _ => True
  | lone, rest => rest = []

end Token

/-- Whether tokens may stand one after the other before the rest of the input. -/
def TokensBefore (ends : Char → Bool) : List Token → List Char → Prop
  | [], _ => True
  | k :: ks, rest => k.Before ends (ks.flatMap Token.chars ++ rest) ∧ TokensBefore ends ks rest

/-- Whether the input is at its end, at a slash, or at a character that ends text. No backslash is
one, since it starts an escape. -/
def Halts (ends : Char → Bool) (rest : List Char) : Prop :=
  ∀ c ∈ rest.head?, c ≠ '\\' ∧ (c = '/' ∨ ends c = true)

section

variable {ends : Char → Bool} {k k' : Token} {ks ks' : List Token} {s s' rest rest' : List Char}

theorem text_token (h : k.Before ends s) :
    text ends (k.chars ++ s) = (k.kept ++ (text ends s).1, (text ends s).2) := by
  cases k with
  | plain c =>
      obtain ⟨hc, hslash, hends⟩ := h
      simp [Token.chars, Token.kept, text_cons hc, hslash, hends]
  | escape c =>
      rw [Token.chars, List.cons_append, List.singleton_append, text_pair, Token.kept]
      split <;> rfl
  | lone =>
      cases h
      rfl

theorem text_tokens (h : TokensBefore ends ks rest) :
    text ends (ks.flatMap Token.chars ++ rest) =
      (ks.flatMap Token.kept ++ (text ends rest).1, (text ends rest).2) := by
  induction ks with
  | nil => rfl
  | cons k ks ih =>
      rw [List.flatMap_cons, List.append_assoc, text_token h.1, ih h.2, List.flatMap_cons,
        List.append_assoc]

theorem text_halts (h : Halts ends rest) : text ends rest = ([], rest) := by
  cases rest with
  | nil => rfl
  | cons c rest =>
      obtain ⟨hc, hstop⟩ := h c rfl
      rw [text_cons hc, if_pos hstop]

/-- An input starts with a token unless text halts there. -/
theorem halts_or_token (ends : Char → Bool) (s : List Char) :
    Halts ends s ∨ ∃ k s', Token.Before ends k s' ∧ s = k.chars ++ s' := by
  cases s with
  | nil => exact .inl fun c hc => nomatch hc
  | cons c s =>
      by_cases hb : c = '\\'
      · subst hb
        cases s with
        | nil => exact .inr ⟨.lone, [], rfl, rfl⟩
        | cons d s => exact .inr ⟨.escape d, s, trivial, rfl⟩
      · by_cases hstop : c = '/' ∨ ends c = true
        · refine .inl fun d hd => ?_
          cases hd
          exact ⟨hb, hstop⟩
        · obtain ⟨hslash, hends⟩ := not_or.1 hstop
          exact .inr ⟨.plain c, s, ⟨hb, hslash, Bool.eq_false_iff.2 hends⟩, rfl⟩

theorem Token.length_chars_pos (k : Token) : 0 < k.chars.length := by
  cases k <;> exact Nat.succ_pos _

theorem exists_tokens (ends : Char → Bool) (s : List Char) :
    ∃ ks rest, TokensBefore ends ks rest ∧ Halts ends rest ∧
      s = ks.flatMap Token.chars ++ rest := by
  induction hn : s.length using Nat.strongRecOn generalizing s with
  | _ n ih =>
  subst hn
  obtain hs | ⟨k, s', hk, rfl⟩ := halts_or_token ends s
  · exact ⟨[], s, trivial, hs, rfl⟩
  · have hlt : s'.length < (k.chars ++ s').length := by
      rw [List.length_append]
      exact Nat.lt_add_of_pos_left k.length_chars_pos
    obtain ⟨ks, rest, hks, hrest, rfl⟩ := ih _ hlt s' rfl
    exact ⟨k :: ks, rest, ⟨hk, hks⟩, hrest, by simp⟩

theorem Token.not_halts (h : k.Before ends s) : ¬ Halts ends (k.chars ++ s) := by
  intro hhalts
  cases k with
  | plain c =>
      obtain ⟨-, hslash, hends⟩ := h
      obtain hstop | hstop := (hhalts c rfl).2
      · exact hslash hstop
      · rw [hends] at hstop
        cases hstop
  | escape _ | lone => exact (hhalts '\\' rfl).1 rfl

/-- An input starts with no two different tokens. -/
theorem Token.eq_of_append_eq (h : k.Before ends s) (h' : k'.Before ends s')
    (heq : k.chars ++ s = k'.chars ++ s') : k = k' ∧ s = s' := by
  cases k with
  | plain c =>
      cases k' with
      | plain d =>
          cases heq
          exact ⟨rfl, rfl⟩
      | escape _ | lone =>
          cases heq
          exact absurd rfl h.1
  | escape c =>
      cases k' with
      | plain d =>
          cases heq
          exact absurd rfl h'.1
      | escape d =>
          cases heq
          exact ⟨rfl, rfl⟩
      | lone =>
          cases h'
          cases heq
  | lone =>
      cases h
      cases k' with
      | plain d =>
          cases heq
          exact absurd rfl h'.1
      | escape d => cases heq
      | lone =>
          cases h'
          exact ⟨rfl, rfl⟩

/-- Where text halts, no split into tokens goes further. -/
theorem isPrefix_of_halts (h : TokensBefore ends ks rest) (hrest : Halts ends rest)
    (h' : TokensBefore ends ks' rest')
    (heq : ks'.flatMap Token.chars ++ rest' = ks.flatMap Token.chars ++ rest) : ks' <+: ks := by
  induction ks' generalizing ks with
  | nil => exact List.nil_prefix
  | cons k' ks' ih =>
      rw [List.flatMap_cons, List.append_assoc] at heq
      cases ks with
      | nil =>
          change _ = rest at heq
          rw [← heq] at hrest
          exact absurd hrest (Token.not_halts h'.1)
      | cons k ks =>
          rw [List.flatMap_cons, List.append_assoc] at heq
          obtain ⟨rfl, htail⟩ := Token.eq_of_append_eq h'.1 h.1 heq
          exact List.cons_prefix_cons.2 ⟨rfl, ih h.2 h'.2 htail⟩

end

/-- Text is read to the end of its tokens, and no other way to take tokens from the front of the
input goes further. An escaped slash is read as a slash, and every other token as it stands. -/
theorem text_takes_longest (ends : Char → Bool) (s : List Char) :
    ∃ ks rest, s = ks.flatMap Token.chars ++ rest ∧ TokensBefore ends ks rest ∧
      (∀ ks' rest', s = ks'.flatMap Token.chars ++ rest' → TokensBefore ends ks' rest' →
        ks' <+: ks) ∧
      Halts ends rest ∧ text ends s = (ks.flatMap Token.kept, rest) := by
  obtain ⟨ks, rest, hks, hrest, rfl⟩ := exists_tokens ends s
  refine ⟨ks, rest, rfl, hks, fun ks' rest' heq h' => ?_, hrest, ?_⟩
  · exact isPrefix_of_halts hks hrest h' heq.symm
  · rw [text_tokens hks, text_halts hrest, List.append_nil]

/-- Of three backslashes the last one takes the slash; in a block an escaped blank ends nothing. -/
example : text Scope.block.endsText "a\\\\\\/b\\ c d".toList =
    ("a\\\\/b\\ c".toList, " d".toList) := by
  decide

end Reader
end Linewise
