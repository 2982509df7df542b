import Linewise.Proofs.Rule.Runs

/-!
How a rule starts. The word at its front decides which reader takes it, and from then on no other
reader is tried. `Start` lists what reading a rule can do, one case for each word; later results
split into these cases and never open the readers again. A rule with a block reads it from shorter
text, so the checks of length in the readers never fail.
-/
namespace Linewise
namespace Reader

open Reading

theorem after?_append (word s : List Char) : after? word (word ++ s) = some s :=
  after?_eq_some_iff.2 rfl

/-- No letter, number or underscore goes on. -/
def EndsWord (rest : List Char) : Prop := ∀ c ∈ rest.head?, isWordChar c = false

theorem endsWord_iff {rest : List Char} : EndsWord rest ↔ rest.head?.any isWordChar = false := by
  cases rest <;> simp [EndsWord]

theorem keyword?_eq_some_iff {word s rest : List Char} :
    keyword? word s = some rest ↔ s = word ++ rest ∧ EndsWord rest := by
  rw [keyword?, Option.filter_eq_some_iff, after?_eq_some_iff, endsWord_iff]
  simp

theorem length_of_keyword? {word s rest : List Char}
    (h : keyword? word (skipLayout s) = some rest) : rest.length ≤ s.length := by
  have hle := length_skipLayout_le s
  rw [(keyword?_eq_some_iff.1 h).1, List.length_append] at hle
  omega

/-- A block after some layout, without which a rule is wrong for good. -/
def blockAfter (s : List Char) : Reading (List (Rule String)) :=
  (block (skipLayout s)).orFail .openBrace

/-- The second block of a status rule, if there is one. -/
def otherwiseAfter (code : String) (body : List (Rule String)) (s : List Char) :
    Reading (Rule String) :=
  match keyword? ['e', 'l', 's', 'e'] (skipLayout s) with
  | some s => (blockAfter s).map (.onStatus code body)
  | none => .read (.onStatus code body []) s

/-- What comes after the word of the rule. -/
def ifAfter (s : List Char) : Reading (Rule String) :=
  (closedPattern s).andThen fun p s => (blockAfter s).map (.ifMatch p)

def betweenAfter (s : List Char) : Reading (Rule String) :=
  (patternThen .startPattern .slash s).andThen fun a s =>
    (closedPattern s).andThen fun b s => (blockAfter s).map (.between a b)

def statusAfter (s : List Char) : Reading (Rule String) :=
  (statusCode s).andThen fun code s => (blockAfter s).andThen (otherwiseAfter code)

theorem block_brace (s : List Char) : block ('{' :: s) = rulesThenBrace s := by
  rw [block]

theorem block_cases (s : List Char) :
    (∃ t, s = '{' :: t ∧ block s = rulesThenBrace t) ∨ block s = .refused s := by
  unfold block
  split
  · exact .inl ⟨_, rfl, rfl⟩
  · exact .inr rfl

theorem length_of_rulesThenBrace {s rest : List Char} {rs : List (Rule String)}
    (h : rulesThenBrace s = .read rs rest) : rest.length < s.length := by
  induction hn : s.length using Nat.strong_induction_on generalizing s rs with
  | _ n ih =>
      subst hn
      rw [rulesThenBrace] at h
      split at h
      · split at h
        · rename_i hlt
          obtain ⟨rs', hr, _⟩ := map_eq_read.1 h
          exact Nat.lt_trans (ih _ hlt hr rfl) hlt
        · cases h
      · split at h
        · rename_i heq
          cases h
          have := length_skipSeparators_le s
          rw [heq, List.length_cons] at this
          omega
        · cases h
      · cases h

theorem length_of_skipLayout_brace {s t : List Char} (h : skipLayout s = '{' :: t) :
    t.length < s.length := by
  have hle := length_skipLayout_le s
  rw [h, List.length_cons] at hle
  exact hle

theorem length_of_blockAfter {s rest : List Char} {rs : List (Rule String)}
    (h : blockAfter s = .read rs rest) : rest.length < s.length := by
  have hb := orFail_eq_read.1 h
  obtain ⟨t, ht, hbt⟩ | hbt := block_cases (skipLayout s)
  · rw [hbt] at hb
    exact Nat.lt_trans (length_of_rulesThenBrace hb) (length_of_skipLayout_brace ht)
  · rw [hbt] at hb
    cases hb

theorem ifRule_word (s : List Char) :
    ifRule (['i', 'f', '/'] ++ s) = ifAfter s := by
  rw [ifRule, ifAfter]
  split
  · rename_i h
    simp [after?] at h
  · rename_i s₁ h
    rw [after?_append] at h
    cases h
    split <;> simp_all [andThen, blockAfter]

theorem ifRule_refused {s : List Char} (h : after? ['i', 'f', '/'] s = none) :
    ifRule s = .refused s := by
  rw [ifRule]
  split
  · rfl
  · simp_all

theorem betweenRule_word (s : List Char) :
    betweenRule (['b', 'e', 't', 'w', 'e', 'e', 'n', '/'] ++ s) = betweenAfter s := by
  rw [betweenRule, betweenAfter]
  split
  · rename_i h
    simp [after?] at h
  · rename_i s₁ h
    rw [after?_append] at h
    cases h
    split
    · simp only [andThen, *]
      split <;> simp_all [blockAfter]
    · simp_all [andThen]
    · simp_all [andThen]

theorem betweenRule_refused {s : List Char}
    (h : after? ['b', 'e', 't', 'w', 'e', 'e', 'n', '/'] s = none) :
    betweenRule s = .refused s := by
  rw [betweenRule]
  split
  · rfl
  · simp_all

theorem statusRule_word (s : List Char) :
    statusRule (['s', 't', 'a', 't', 'u', 's', ':'] ++ s) = statusAfter s := by
  rw [statusRule, statusAfter]
  split
  · rename_i h
    simp [after?] at h
  · rename_i s₁ h
    rw [after?_append] at h
    cases h
    split
    · rename_i code s₂ hc
      rw [hc]
      change (blockAfter s₂).andThen _ = (blockAfter s₂).andThen _
      cases hb : blockAfter s₂ with
      | read body s₃ =>
          simp only [andThen, otherwiseAfter]
          split
          · rename_i s₄ h₄
            -- The text after `else` is shorter, since the first block has been taken from it.
            have hlen : s₄.length < (['s', 't', 'a', 't', 'u', 's', ':'] ++ s).length := by
              have h₁ := length_of_statusCode hc
              have h₂ := length_of_blockAfter hb
              have h₃ := length_of_keyword? h₄
              rw [List.length_append]
              omega
            rw [if_pos hlen, h₄]
            rfl
          · simp_all
      | refused rest => rfl
      | failed rest e => rfl
    · simp_all [andThen]
    · simp_all [andThen]

theorem statusRule_refused {s : List Char}
    (h : after? ['s', 't', 'a', 't', 'u', 's', ':'] s = none) : statusRule s = .refused s := by
  rw [statusRule]
  split
  · rfl
  · simp_all

/-- What is left after the slash that may close a replacement. -/
def dropSlash : List Char → List Char
  | '/' :: rest => rest
  | rest => rest

theorem dropSlash_of_head? {rest : List Char} (h : rest.head? ≠ some '/') :
    dropSlash rest = rest := by
  unfold dropSlash
  split
  · exact absurd rfl h
  · rfl

def substituteAfter (scope : Scope) (everywhere : Bool) (s : List Char) : Reading (Rule String) :=
  (patternThen .pattern .slash s).andThen fun p s =>
    .read (.substitute p (String.ofList (text scope.endsText s).1) everywhere)
      (dropSlash (text scope.endsText s).2)

def setLineAfter (scope : Scope) (s : List Char) : Reading (Rule String) :=
  ((signed s).orFail .lineNumber).andThen fun line s =>
    match s with
    | ':' :: s =>
        .read (.setLine line (String.ofList (s.takeWhile fun c => !scope.endsText c)))
          (s.dropWhile fun c => !scope.endsText c)
    | s => .failed s .colon

/-- Whether the lines to keep are given after the word of a print rule. -/
def Selects (s : List Char) : Prop := s.head? = some ':' ∨ s.head? = some '/'

theorem selector_refused {s : List Char} (h : ¬ Selects s) : selector s = .refused s := by
  unfold selector
  split
  · simp [Selects] at h
  · simp [Selects] at h
  · rfl

theorem decides_patternThen (missing unclosed : Expected) (s : List Char) :
    (patternThen missing unclosed s).Decides := by
  rw [patternThen]
  split <;> trivial

theorem decides_blockAfter (s : List Char) : (blockAfter s).Decides :=
  decides_orFail _ _

theorem decides_otherwiseAfter (code : String) (body : List (Rule String)) (s : List Char) :
    (otherwiseAfter code body s).Decides := by
  rw [otherwiseAfter]
  split
  · exact (decides_blockAfter _).map _
  · trivial

theorem decides_statusCode (s : List Char) : (statusCode s).Decides := by
  rw [statusCode]
  split <;> trivial

theorem decides_ifAfter (s : List Char) : (ifAfter s).Decides :=
  (decides_patternThen _ _ _).andThen fun _ _ => (decides_blockAfter _).map _

theorem decides_betweenAfter (s : List Char) : (betweenAfter s).Decides :=
  (decides_patternThen _ _ _).andThen fun _ _ =>
    (decides_patternThen _ _ _).andThen fun _ _ => (decides_blockAfter _).map _

theorem decides_statusAfter (s : List Char) : (statusAfter s).Decides :=
  (decides_statusCode _).andThen fun _ _ =>
    (decides_blockAfter _).andThen fun _ _ => decides_otherwiseAfter _ _ _

theorem decides_selector {s : List Char} (h : Selects s) : (selector s).Decides := by
  cases s with
  | nil => simp [Selects] at h
  | cons c s =>
      obtain h | h := h <;> cases h
      · exact (decides_orFail _ _).map _
      · exact (decides_patternThen _ _ _).map _

theorem decides_substituteAfter (scope : Scope) (everywhere : Bool) (s : List Char) :
    (substituteAfter scope everywhere s).Decides :=
  (decides_patternThen _ _ _).andThen fun _ _ => trivial

theorem decides_setLineAfter (scope : Scope) (s : List Char) :
    (setLineAfter scope s).Decides := by
  refine (decides_orFail _ _).andThen fun line s => ?_
  split <;> trivial

variable (scope : Scope)

theorem rule_if (s : List Char) : rule scope (['i', 'f', '/'] ++ s) = ifAfter s := by
  rw [rule, ifRule_word]
  exact orElse_of_decides (decides_ifAfter s) _

theorem rule_between (s : List Char) :
    rule scope (['b', 'e', 't', 'w', 'e', 'e', 'n', '/'] ++ s) = betweenAfter s := by
  rw [rule, ifRule_refused rfl, betweenRule_word, refused_orElse]
  exact orElse_of_decides (decides_betweenAfter s) _

theorem rule_status (s : List Char) :
    rule scope (['s', 't', 'a', 't', 'u', 's', ':'] ++ s) = statusAfter s := by
  rw [rule, ifRule_refused rfl, betweenRule_refused rfl, statusRule_word, refused_orElse,
    refused_orElse]
  exact orElse_of_decides (decides_statusAfter s) _

theorem rule_of_no_block {s : List Char} (h₁ : after? ['i', 'f', '/'] s = none)
    (h₂ : after? ['b', 'e', 't', 'w', 'e', 'e', 'n', '/'] s = none)
    (h₃ : after? ['s', 't', 'a', 't', 'u', 's', ':'] s = none) :
    rule scope s =
      (longPrintRule s).orElse fun _ => (shortPrintRule s).orElse fun _ =>
        (substituteRule scope s).orElse fun _ => (setLineRule scope s).orElse fun _ =>
          arrangeRule s := by
  rw [rule, ifRule_refused h₁, betweenRule_refused h₂, statusRule_refused h₃]
  rfl

theorem rule_print {s : List Char} (h : Selects s) :
    rule scope (['p', 'r', 'i', 'n', 't'] ++ s) = selector s := by
  have hd := decides_selector h
  rw [rule_of_no_block scope rfl rfl rfl, longPrintRule, after?_append]
  simp only
  rw [orElse_of_decides hd, orElse_of_decides hd]

theorem rule_p {s : List Char} (h : Selects s) : rule scope (['p'] ++ s) = selector s := by
  have hl : longPrintRule ('p' :: s) = .refused ('p' :: s) := by
    cases s with
    | nil => rfl
    | cons c s => obtain h | h := h <;> cases h <;> rfl
  rw [rule_of_no_block scope rfl rfl rfl, List.singleton_append, hl, refused_orElse]
  exact orElse_of_decides (decides_selector h) _

theorem rule_printAll {s : List Char} (h : ¬ Selects s) (hs : EndsWord s) :
    rule scope (['p', 'r', 'i', 'n', 't'] ++ s) = .read .keepAll s := by
  rw [rule_of_no_block scope rfl rfl rfl, longPrintRule, after?_append]
  simp only [selector_refused h, endsWord_iff.1 hs]
  rfl

theorem rule_printed {s : List Char} (h : ¬ Selects s) (hs : ¬ EndsWord s) :
    rule scope (['p', 'r', 'i', 'n', 't'] ++ s) = .refused (['p', 'r', 'i', 'n', 't'] ++ s) := by
  rw [endsWord_iff, Bool.not_eq_false] at hs
  rw [rule_of_no_block scope rfl rfl rfl, longPrintRule, after?_append]
  simp only [selector_refused h, hs]
  rfl

theorem rule_of_no_print {s : List Char} (h₁ : after? ['i', 'f', '/'] s = none)
    (h₂ : after? ['b', 'e', 't', 'w', 'e', 'e', 'n', '/'] s = none)
    (h₃ : after? ['s', 't', 'a', 't', 'u', 's', ':'] s = none) (hp : after? ['p'] s = none) :
    rule scope s =
      (substituteRule scope s).orElse fun _ => (setLineRule scope s).orElse fun _ =>
        arrangeRule s := by
  have hs : ∀ t, s ≠ 'p' :: t := by
    rintro t rfl
    cases hp
  have hl : longPrintRule s = .refused s := by
    rw [longPrintRule]
    split
    · rfl
    · rename_i h
      exact absurd (after?_eq_some_iff.1 h) (hs _)
  have hp : shortPrintRule s = .refused s := by
    unfold shortPrintRule
    split
    · exact absurd rfl (hs _)
    · rfl
  rw [rule_of_no_block scope h₁ h₂ h₃, hl, hp, refused_orElse, refused_orElse]

theorem rule_substitute (everywhere : Bool) (s : List Char) :
    rule scope ([if everywhere then 'g' else 's', '/'] ++ s) =
      substituteAfter scope everywhere s := by
  cases everywhere with
  | false =>
      rw [rule_of_no_print scope rfl rfl rfl rfl]
      exact orElse_of_decides (decides_substituteAfter scope false s) _
  | true =>
      rw [rule_of_no_print scope rfl rfl rfl rfl]
      exact orElse_of_decides (decides_substituteAfter scope true s) _

theorem rule_setLine (s : List Char) : rule scope (['s', ':'] ++ s) = setLineAfter scope s := by
  have hs : substituteRule scope (['s', ':'] ++ s) = .refused (['s', ':'] ++ s) := rfl
  rw [rule_of_no_print scope rfl rfl rfl rfl, hs, refused_orElse]
  exact orElse_of_decides (decides_setLineAfter scope s) _

end Reader

def Arrangement.word : Arrangement → List Char
  | sort => ['s', 'o', 'r', 't']
  | reverse => ['r', 'e', 'v', 'e', 'r', 's', 'e']
  | join => ['j', 'o', 'i', 'n']

namespace Reader

variable (scope : Scope)

theorem arrangeRule_word (how : Arrangement) {s : List Char} (hs : EndsWord s) :
    arrangeRule (how.word ++ s) = .read (.arrange how) s := by
  have hk : keyword? how.word (how.word ++ s) = some s := keyword?_eq_some_iff.2 ⟨rfl, hs⟩
  cases how with
  | sort =>
      rw [Arrangement.word] at hk ⊢
      rw [arrangeRule, hk]
  | reverse =>
      rw [Arrangement.word] at hk ⊢
      have hsort : keyword? Arrangement.sort.word (Arrangement.reverse.word ++ s) = none := rfl
      rw [Arrangement.word, Arrangement.word] at hsort
      rw [arrangeRule, hsort]
      simp only [hk]
  | join =>
      change (if s.head?.any isWordChar then _ else _) = _
      rw [endsWord_iff.1 hs]
      rfl

theorem rule_arrange (how : Arrangement) {s : List Char} (hs : EndsWord s) :
    rule scope (how.word ++ s) = .read (.arrange how) s := by
  rw [← arrangeRule_word how hs]
  cases how <;> exact rule_of_no_block scope rfl rfl rfl

/-- What reading a rule does, by the word at its front. -/
inductive Start : List Char → Reading (Rule String) → Prop
  | ifMatch (s : List Char) : Start (['i', 'f', '/'] ++ s) (ifAfter s)
  | between (s : List Char) :
      Start (['b', 'e', 't', 'w', 'e', 'e', 'n', '/'] ++ s) (betweenAfter s)
  | onStatus (s : List Char) :
      Start (['s', 't', 'a', 't', 'u', 's', ':'] ++ s) (statusAfter s)
  | select {word s : List Char} :
      word = ['p'] ∨ word = ['p', 'r', 'i', 'n', 't'] → Selects s → Start (word ++ s) (selector s)
  | keepAll {s : List Char} : ¬ Selects s → EndsWord s →
      Start (['p', 'r', 'i', 'n', 't'] ++ s) (.read .keepAll s)
  | substitute (everywhere : Bool) (s : List Char) :
      Start ([if everywhere then 'g' else 's', '/'] ++ s) (substituteAfter scope everywhere s)
  | setLine (s : List Char) : Start (['s', ':'] ++ s) (setLineAfter scope s)
  | arrange {s : List Char} (how : Arrangement) :
      EndsWord s → Start (how.word ++ s) (.read (.arrange how) s)
  /-- The last word of all is left behind when it goes on. -/
  | joined {s : List Char} : ¬ EndsWord s → Start (['j', 'o', 'i', 'n'] ++ s) (.refused s)
  | other (s : List Char) : Start s (.refused s)

theorem arrangeRule_cases (s : List Char) :
    (∃ how rest, s = Arrangement.word how ++ rest ∧ EndsWord rest) ∨
      (∃ rest, s = ['j', 'o', 'i', 'n'] ++ rest ∧ ¬ EndsWord rest) ∨
      arrangeRule s = .refused s := by
  rw [arrangeRule]
  split
  · rename_i rest h
    exact .inl ⟨.sort, rest, keyword?_eq_some_iff.1 h⟩
  · split
    · rename_i rest h
      exact .inl ⟨.reverse, rest, keyword?_eq_some_iff.1 h⟩
    · split
      · rename_i rest h
        have hs := after?_eq_some_iff.1 h
        by_cases hw : EndsWord rest
        · exact .inl ⟨.join, rest, hs, hw⟩
        · exact .inr (.inl ⟨rest, hs, hw⟩)
      · exact .inr (.inr rfl)

theorem rule_joined {s : List Char} (hs : ¬ EndsWord s) :
    rule scope (['j', 'o', 'i', 'n'] ++ s) = .refused s := by
  rw [endsWord_iff, Bool.not_eq_false] at hs
  rw [rule_of_no_print scope rfl rfl rfl rfl]
  change (if s.head?.any isWordChar then _ else _) = _
  rw [hs]
  rfl

theorem rule_p_refused {s : List Char} (hs : ¬ Selects s)
    (h : after? ['r', 'i', 'n', 't'] s = none) : rule scope ('p' :: s) = .refused ('p' :: s) := by
  have hl : longPrintRule ('p' :: s) = .refused ('p' :: s) := by
    rw [longPrintRule]
    split
    · rfl
    · rename_i rest heq
      change after? ['r', 'i', 'n', 't'] s = some rest at heq
      rw [h] at heq
      cases heq
  have hp : shortPrintRule ('p' :: s) = .refused s := selector_refused hs
  rw [rule_of_no_block scope rfl rfl rfl, hl, hp]
  rfl

theorem substituteRule_refused {s : List Char} (h₁ : after? ['s', '/'] s = none)
    (h₂ : after? ['g', '/'] s = none) : substituteRule scope s = .refused s := by
  unfold substituteRule
  split
  · cases h₁
  · cases h₂
  · rfl

theorem setLineRule_refused {s : List Char} (h : after? ['s', ':'] s = none) :
    setLineRule scope s = .refused s := by
  unfold setLineRule
  split
  · cases h
  · rfl

/-- Reading a rule does nothing that `Start` does not list. -/
theorem start (s : List Char) : Start scope s (rule scope s) := by
  cases h₁ : after? ['i', 'f', '/'] s with
  | some t =>
      rw [after?_eq_some_iff.1 h₁, rule_if]
      exact .ifMatch t
  | none =>
  cases h₂ : after? ['b', 'e', 't', 'w', 'e', 'e', 'n', '/'] s with
  | some t =>
      rw [after?_eq_some_iff.1 h₂, rule_between]
      exact .between t
  | none =>
  cases h₃ : after? ['s', 't', 'a', 't', 'u', 's', ':'] s with
  | some t =>
      rw [after?_eq_some_iff.1 h₃, rule_status]
      exact .onStatus t
  | none =>
  cases h₄ : after? ['p'] s with
  | some t =>
      rw [after?_eq_some_iff.1 h₄]
      by_cases ht : Selects t
      · rw [rule_p scope ht]
        exact .select (.inl rfl) ht
      · cases h₅ : after? ['r', 'i', 'n', 't'] t with
        | none =>
            rw [List.singleton_append, rule_p_refused scope ht h₅]
            exact .other _
        | some u =>
            rw [after?_eq_some_iff.1 h₅, ← List.append_assoc]
            by_cases hu : Selects u
            · exact rule_print scope hu ▸ .select (.inr rfl) hu
            · by_cases hw : EndsWord u
              · exact rule_printAll scope hu hw ▸ .keepAll hu hw
              · exact rule_printed scope hu hw ▸ .other _
  | none =>
      cases h₅ : after? ['s', '/'] s with
      | some t =>
          rw [after?_eq_some_iff.1 h₅]
          exact rule_substitute scope false t ▸ .substitute false t
      | none =>
      cases h₆ : after? ['g', '/'] s with
      | some t =>
          rw [after?_eq_some_iff.1 h₆]
          exact rule_substitute scope true t ▸ .substitute true t
      | none =>
      cases h₇ : after? ['s', ':'] s with
      | some t =>
          rw [after?_eq_some_iff.1 h₇, rule_setLine]
          exact .setLine t
      | none =>
          obtain ⟨how, t, rfl, ht⟩ | ⟨t, rfl, ht⟩ | hr := arrangeRule_cases s
          · rw [rule_arrange scope how ht]
            exact .arrange how ht
          · rw [rule_joined scope ht]
            exact .joined ht
          · rw [rule_of_no_print scope h₁ h₂ h₃ h₄, substituteRule_refused scope h₅ h₆,
              setLineRule_refused scope h₇, hr]
            exact .other s

end Reader
end Linewise
