import Linewise.Proofs.Rule.Outcome

/-!
Where the rules of blocks stand. Reading a rule comes to the rules of its blocks, at every depth, as
soon as what stands before them has been read. What fails there fails for good: the whole text is no
rule, and the error stands where reading the block stopped.
-/
namespace Linewise
namespace Reader

open Reading

variable {scope : Scope} {s t rest : List Char}

/-- A rule that is read takes something. -/
theorem exists_append_of_rule {r : Rule String} (h : rule scope s = .read r rest) :
    ∃ taken, taken ≠ [] ∧ s = taken ++ rest := by
  have ho := rule_outcome scope s
  rw [h] at ho
  obtain ⟨u, e, rfl, hu, -⟩ := ho
  obtain ⟨c, -, hc⟩ := hu.head
  obtain ⟨u, rfl⟩ := List.head?_eq_some_iff.1 hc
  exact ⟨c :: u, List.cons_ne_nil c u, rfl⟩

theorem length_of_rule {r : Rule String} (h : rule scope s = .read r rest) :
    rest.length < s.length := by
  obtain ⟨taken, hne, rfl⟩ := exists_append_of_rule h
  have hpos := List.length_pos_iff.2 hne
  rw [List.length_append]
  omega

/-- What is left before the next rule of a block. -/
theorem length_of_next {r : Rule String} (h : rule .block (skipSeparators s) = .read r rest) :
    rest.length < s.length :=
  Nat.lt_of_lt_of_le (length_of_rule h) (length_skipSeparators_le s)

/-- A rule at the front of the first text has a block, whose rules are read from the second. -/
inductive Opens : List Char → List Char → Prop
  | ifMatch {s s₁ t : List Char} {p : String} :
      closedPattern s = .read p s₁ → skipLayout s₁ = '{' :: t → Opens (['i', 'f', '/'] ++ s) t
  | between {s s₁ s₂ t : List Char} {a b : String} :
      patternThen .startPattern .slash s = .read a s₁ → closedPattern s₁ = .read b s₂ →
      skipLayout s₂ = '{' :: t → Opens (['b', 'e', 't', 'w', 'e', 'e', 'n', '/'] ++ s) t
  | onStatus {s s₁ t : List Char} {code : String} :
      statusCode s = .read code s₁ → skipLayout s₁ = '{' :: t →
      Opens (['s', 't', 'a', 't', 'u', 's', ':'] ++ s) t
  | otherwise {s s₁ s₂ s₃ s₄ t : List Char} {code : String} {body : List (Rule String)} :
      statusCode s = .read code s₁ → skipLayout s₁ = '{' :: s₂ →
      rulesThenBrace s₂ = .read body s₃ →
      keyword? ['e', 'l', 's', 'e'] (skipLayout s₃) = some s₄ → skipLayout s₄ = '{' :: t →
      Opens (['s', 't', 'a', 't', 'u', 's', ':'] ++ s) t

/-- Reading a rule from the first text comes to rules of a block at the second. -/
inductive Reaches : List Char → List Char → Prop
  | opens {s t : List Char} : Opens s t → Reaches s t
  /-- Past a rule of the block. -/
  | next {s t rest : List Char} {r : Rule String} :
      Reaches s t → rule .block (skipSeparators t) = .read r rest → Reaches s rest
  /-- Into a block of the next rule. -/
  | inside {s t t' : List Char} : Reaches s t → Opens (skipSeparators t) t' → Reaches s t'

theorem blockAfter_of_brace (h : skipLayout s = '{' :: t) :
    blockAfter s = (rulesThenBrace t).orFail .openBrace := by
  rw [blockAfter, h, block_brace]

theorem rule_failed_of_opens {e : Expected} (h : Opens s t)
    (hf : rulesThenBrace t = .failed rest e) : rule scope s = .failed rest e := by
  cases h with
  | ifMatch hp hb =>
      rw [rule_if, ifAfter, hp]
      simp only [andThen, blockAfter_of_brace hb, hf, orFail, Reading.map]
  | between ha hb hbrace =>
      rw [rule_between, betweenAfter, ha]
      simp only [andThen, hb, blockAfter_of_brace hbrace, hf, orFail, Reading.map]
  | onStatus hc hb =>
      rw [rule_status, statusAfter, hc]
      simp only [andThen, blockAfter_of_brace hb, hf, orFail]
  | otherwise hc hb hbody helse hb' =>
      rw [rule_status, statusAfter, hc]
      simp only [andThen, blockAfter_of_brace hb, hbody, orFail, otherwiseAfter, helse,
        blockAfter_of_brace hb', hf, Reading.map]

theorem rulesThenBrace_of_failed {e : Expected}
    (h : rule .block (skipSeparators s) = .failed rest e) :
    rulesThenBrace s = .failed rest e := by
  rw [rulesThenBrace, h]

theorem rulesThenBrace_of_read {r : Rule String}
    (h : rule .block (skipSeparators s) = .read r rest) :
    rulesThenBrace s = (rulesThenBrace rest).map (r :: ·) := by
  rw [rulesThenBrace, h]
  simp only [if_pos (length_of_next h)]

/-- A failure in a block, at any depth, is the failure of the rule. -/
theorem rule_failed_of_reaches {e : Expected} (h : Reaches s t)
    (hf : rulesThenBrace t = .failed rest e) : rule scope s = .failed rest e := by
  induction h with
  | opens h => exact rule_failed_of_opens h hf
  | next _ hr ih =>
      apply ih
      rw [rulesThenBrace_of_read hr, hf]
      rfl
  | inside _ h ih => exact ih (rulesThenBrace_of_failed (rule_failed_of_opens h hf))

/-- A rule that is followed by a character with which no rule starts ends its block, and fails it
unless that is the brace. -/
theorem rulesThenBrace_stuck {r : Rule String} {c : Char}
    (h : rule .block (skipSeparators s) = .read r (c :: rest)) (hsep : isSeparator c = false)
    (hbrace : c ≠ '}') (hc : rule .block (c :: rest) = .refused (c :: rest)) :
    rulesThenBrace s = .failed (c :: rest) .ruleOrCloseBrace := by
  have hskip : skipSeparators (c :: rest) = c :: rest := by simp [skipSeparators, hsep]
  have hstop : rulesThenBrace (c :: rest) = .failed (c :: rest) .ruleOrCloseBrace := by
    rw [rulesThenBrace, hskip, hc]
    simp only
    split
    · rename_i heq
      cases heq
      exact absurd rfl hbrace
    · rfl
  rw [rulesThenBrace_of_read h, hstop]
  rfl

end Reader

/-- Reading a text comes to a rule of a block, at any depth, that starts with the rest of it. -/
def Rule.InBlock (source : String) (s : List Char) : Prop :=
  ∃ t, Reader.Reaches (Reader.skipLayout source.toList) t ∧ Reader.skipSeparators t = s

theorem Rule.read_of_failed {source : String} {rest : List Char} {e : Expected}
    (h : Reader.rule .top (Reader.skipLayout source.toList) = .failed rest e) :
    Rule.read source = .error ⟨some e, source.toList.length - rest.length⟩ := by
  simp only [Rule.read, h]

end Linewise
