import Linewise.Proofs.Rule.Truncation
import Linewise.Proofs.Unicode.Offset

/-!
Reading comes to an end. A rule that is read takes something, and a block takes its two braces, so
no block goes round with a rule that leaves the text as it was. The readers are written here once
more, for a limited number of steps and without a look at the lengths of texts, and come to the same
outcomes.
-/
namespace Linewise

/-- Some of a text has been taken, up to a place between two of its characters, and the rest is
left. -/
def Leaves (s taken rest : List Char) : Prop :=
  s = taken ++ rest ∧ (String.Pos.Raw.mk (utf8Size taken)).IsValid (String.ofList s)

theorem leaves_append (taken rest : List Char) : Leaves (taken ++ rest) taken rest :=
  ⟨rfl, isValid_utf8Size taken rest⟩

namespace Reader

open Reading

theorem exists_leaves_of_rule {scope : Scope} {s rest : List Char} {r : Rule String}
    (h : rule scope s = .read r rest) : ∃ taken, taken ≠ [] ∧ Leaves s taken rest := by
  obtain ⟨taken, hne, rfl⟩ := exists_append_of_rule h
  exact ⟨taken, hne, leaves_append taken rest⟩

/-- A block that is read has taken its braces, the second one last. -/
theorem exists_leaves_of_block {s rest : List Char} {rs : List (Rule String)}
    (h : block s = .read rs rest) : ∃ inside, Leaves s ('{' :: (inside ++ ['}'])) rest := by
  obtain ⟨t, rfl, hr⟩ | hr := block_cases s
  · rw [hr] at h
    obtain ⟨u, rfl, -⟩ := takesTo_rulesThenBrace t rs rest h
    refine ⟨u, ?_⟩
    simpa using leaves_append ('{' :: (u ++ ['}'])) rest
  · rw [hr] at h
    cases h

/-- The loop of a block has less text left after each of its rules, in bytes as well. -/
theorem utf8Size_of_rule {s rest : List Char} {r : Rule String}
    (h : rule .block (skipSeparators s) = .read r rest) : utf8Size rest < utf8Size s := by
  obtain ⟨taken, hne, htaken⟩ := exists_append_of_rule h
  obtain ⟨w, hs, -⟩ := exists_run isSeparator s
  change s = w ++ skipSeparators s at hs
  have hpos := utf8Size_pos hne
  rw [hs, htaken, utf8Size_append, utf8Size_append]
  omega

theorem length_of_opens {s t : List Char} (h : Opens s t) : t.length + 1 < s.length := by
  cases h with
  | ifMatch hp hb =>
      have hlt := length_of_patternThen hp
      have hle := length_of_skipLayout_brace hb
      simp only [List.length_append, List.length_cons]
      omega
  | between ha hb hbrace =>
      have hlt := length_of_patternThen ha
      have hlt' := length_of_patternThen hb
      have hle := length_of_skipLayout_brace hbrace
      simp only [List.length_append, List.length_cons]
      omega
  | onStatus hc hb =>
      have hle := length_of_statusCode hc
      have hle' := length_of_skipLayout_brace hb
      simp only [List.length_append, List.length_cons]
      omega
  | otherwise hc hb hbody helse hb' =>
      have hle := length_of_statusCode hc
      have hle' := length_of_skipLayout_brace hb
      have hlt := length_of_rulesThenBrace hbody
      have helse' := length_of_keyword? helse
      have hle'' := length_of_skipLayout_brace hb'
      simp only [List.length_append, List.length_cons]
      omega

/-- Reading comes to less and less text, whether it ends well or not. -/
theorem length_of_reaches {s t : List Char} (h : Reaches s t) : t.length < s.length := by
  induction h with
  | opens h => exact Nat.lt_of_succ_lt (length_of_opens h)
  | next _ hr ih => exact Nat.lt_trans (length_of_next hr) ih
  | inside _ h ih =>
      exact Nat.lt_trans (Nat.lt_of_succ_lt (length_of_opens h))
        (Nat.lt_of_le_of_lt (length_skipSeparators_le _) ih)

end Reader

/-- The outcome of a reader that takes a limited number of steps. -/
inductive Attempt (α : Type)
  | ended (reading : Reading α)
  /-- A block has read a rule that took nothing, and would read it again without end. -/
  | stalled
  | exhausted
deriving Repr

namespace Attempt

variable {α β : Type}

def bind (x : Attempt α) (f : Reading α → Attempt β) : Attempt β :=
  match x with
  | ended r => f r
  | stalled => stalled
  | exhausted => exhausted

def map (f : α → β) (x : Attempt α) : Attempt β := x.bind fun r => ended (r.map f)

def andThen (x : Attempt α) (f : α → List Char → Attempt β) : Attempt β :=
  x.bind fun
    | .read a rest => f a rest
    | .refused rest => ended (.refused rest)
    | .failed rest e => ended (.failed rest e)

def orElse (x : Attempt α) (other : Unit → Attempt α) : Attempt α :=
  x.bind fun
    | .refused _ => other ()
    | r => ended r

def orFail (x : Attempt α) (expected : Expected) : Attempt α :=
  x.bind fun r => ended (r.orFail expected)

/-- No outcome but the given one, which is reached if the steps are enough. -/
def Settles (x : Attempt α) (r : Reading α) (enough : Prop) : Prop :=
  x = ended r ∨ x = exhausted ∧ ¬ enough

section

variable {x : Attempt α} {r : Reading α} {enough : Prop}

theorem settles_ended (r : Reading α) (enough : Prop) : (ended r).Settles r enough := .inl rfl

theorem Settles.ne_stalled (h : x.Settles r enough) : x ≠ stalled := by
  rintro rfl
  obtain h | ⟨h, -⟩ := h <;> cases h

theorem Settles.eq_ended (h : x.Settles r enough) (he : enough) : x = ended r :=
  h.resolve_right fun hfew => hfew.2 he

theorem Settles.mono {fewer : Prop} (h : x.Settles r enough) (hf : fewer → enough) :
    x.Settles r fewer :=
  h.imp_right fun ⟨hx, hfew⟩ => ⟨hx, fun he => hfew (hf he)⟩

theorem Settles.bind {f : Reading α → Attempt β} {q : Reading β} (h : x.Settles r enough)
    (hf : (f r).Settles q enough) : (x.bind f).Settles q enough := by
  obtain rfl | ⟨rfl, hfew⟩ := h
  · exact hf
  · exact .inr ⟨rfl, hfew⟩

theorem Settles.map (h : x.Settles r enough) (f : α → β) :
    (x.map f).Settles (r.map f) enough :=
  h.bind (settles_ended _ _)

theorem Settles.orFail (h : x.Settles r enough) (e : Expected) :
    (x.orFail e).Settles (r.orFail e) enough :=
  h.bind (settles_ended _ _)

theorem Settles.andThen {f : α → List Char → Attempt β} {g : α → List Char → Reading β}
    (h : x.Settles r enough)
    (hf : ∀ a rest, r = .read a rest → (f a rest).Settles (g a rest) enough) :
    (x.andThen f).Settles (r.andThen g) enough := by
  refine h.bind ?_
  cases r with
  | read a rest => exact hf a rest rfl
  | refused rest | failed rest e => exact settles_ended _ _

theorem Settles.orElse {other : Unit → Attempt α} {other' : Unit → Reading α}
    (h : x.Settles r enough) (ho : (other ()).Settles (other' ()) enough) :
    (x.orElse other).Settles (r.orElse other') enough := by
  refine h.bind ?_
  cases r with
  | refused rest => exact ho
  | read a rest | failed rest e => exact settles_ended _ _

end

end Attempt

namespace Reader

open Reading Attempt

section

variable (rulesOf : List Char → Attempt (List (Rule String)))

/-- A block, given what reads the rules in it. -/
def blockBy : List Char → Attempt (List (Rule String))
  | '{' :: s => rulesOf s
  | s => .ended (.refused s)

def blockAfterBy (s : List Char) : Attempt (List (Rule String)) :=
  (blockBy rulesOf (skipLayout s)).orFail .openBrace

def ifRuleBy (s : List Char) : Attempt (Rule String) :=
  match after? ['i', 'f', '/'] s with
  | none => .ended (.refused s)
  | some s =>
      (Attempt.ended (closedPattern s)).andThen fun p s =>
        (blockAfterBy rulesOf s).map (.ifMatch p)

def betweenRuleBy (s : List Char) : Attempt (Rule String) :=
  match after? ['b', 'e', 't', 'w', 'e', 'e', 'n', '/'] s with
  | none => .ended (.refused s)
  | some s =>
      (Attempt.ended (patternThen .startPattern .slash s)).andThen fun a s =>
        (Attempt.ended (closedPattern s)).andThen fun b s =>
          (blockAfterBy rulesOf s).map (.between a b)

def statusRuleBy (s : List Char) : Attempt (Rule String) :=
  match after? ['s', 't', 'a', 't', 'u', 's', ':'] s with
  | none => .ended (.refused s)
  | some s =>
      (Attempt.ended (statusCode s)).andThen fun code s =>
        (blockAfterBy rulesOf s).andThen fun body s =>
          match keyword? ['e', 'l', 's', 'e'] (skipLayout s) with
          | some s => (blockAfterBy rulesOf s).map (.onStatus code body)
          | none => .ended (.read (.onStatus code body []) s)

end

mutual

/-- Reads a rule. Each rule is a step, and so is each round of a block. -/
def ruleWithin : Nat → Scope → List Char → Attempt (Rule String)
  | 0, _, _ => .exhausted
  | n + 1, scope, s =>
      (ifRuleBy (rulesWithin n) s).orElse fun _ =>
      (betweenRuleBy (rulesWithin n) s).orElse fun _ =>
      (statusRuleBy (rulesWithin n) s).orElse fun _ =>
      .ended <|
        (longPrintRule s).orElse fun _ =>
        (shortPrintRule s).orElse fun _ =>
        (substituteRule scope s).orElse fun _ =>
        (setLineRule scope s).orElse fun _ =>
        arrangeRule s

/-- Reads rules up to the closing brace, one in each round. A rule has taken nothing if as many
bytes are left as before the separators in front of it. -/
def rulesWithin : Nat → List Char → Attempt (List (Rule String))
  | 0, _ => .exhausted
  | n + 1, s =>
      (ruleWithin n .block (skipSeparators s)).bind fun
        | .read r rest =>
            if utf8Size rest = utf8Size s then .stalled else (rulesWithin n rest).map (r :: ·)
        | .refused _ => .ended <|
            match skipSeparators s with
            | '}' :: rest => .read [] rest
            | rest => .failed rest .ruleOrCloseBrace
        | .failed rest e => .ended (.failed rest e)

end

def blockWithin (n : Nat) (s : List Char) : Attempt (List (Rule String)) :=
  blockBy (rulesWithin n) s

section

variable {rulesOf : List Char → Attempt (List (Rule String))} {enough : Prop} {s : List Char}

/-- The rules of blocks are settled where the blocks have less than some length. -/
def SettlesBelow (n : Nat) (rulesOf : List Char → Attempt (List (Rule String)))
    (enough : Prop) : Prop :=
  ∀ t, t.length + 1 < n → (rulesOf t).Settles (rulesThenBrace t) enough

theorem settles_blockBy (h : SettlesBelow (s.length + 1) rulesOf enough) :
    (blockBy rulesOf s).Settles (block s) enough := by
  unfold blockBy
  split
  · rename_i t
    rw [block_brace]
    exact h t (Nat.lt_succ_self _)
  · rename_i hbrace
    obtain ⟨t, rfl, -⟩ | hr := block_cases s
    · exact absurd rfl (hbrace t)
    · rw [hr]
      exact settles_ended _ _

theorem settles_blockAfterBy {n : Nat} (h : SettlesBelow n rulesOf enough) (hs : s.length < n) :
    (blockAfterBy rulesOf s).Settles (blockAfter s) enough := by
  have hle := length_skipLayout_le s
  exact (settles_blockBy fun t ht => h t (by omega)).orFail _

theorem settles_ifRuleBy (h : SettlesBelow s.length rulesOf enough) :
    (ifRuleBy rulesOf s).Settles (ifRule s) enough := by
  rw [ifRuleBy]
  cases hs : after? ['i', 'f', '/'] s with
  | none =>
      rw [ifRule_refused hs]
      exact settles_ended _ _
  | some s₁ =>
      have hword := length_of_after? hs
      rw [after?_eq_some_iff.1 hs, ifRule_word]
      refine (settles_ended _ _).andThen fun p s₂ hp => ?_
      have hlt := length_of_patternThen hp
      exact (settles_blockAfterBy h (by omega)).map _

theorem settles_betweenRuleBy (h : SettlesBelow s.length rulesOf enough) :
    (betweenRuleBy rulesOf s).Settles (betweenRule s) enough := by
  rw [betweenRuleBy]
  cases hs : after? ['b', 'e', 't', 'w', 'e', 'e', 'n', '/'] s with
  | none =>
      rw [betweenRule_refused hs]
      exact settles_ended _ _
  | some s₁ =>
      have hword := length_of_after? hs
      rw [after?_eq_some_iff.1 hs, betweenRule_word]
      refine (settles_ended _ _).andThen fun a s₂ ha =>
        (settles_ended _ _).andThen fun b s₃ hb => ?_
      have hlt := length_of_patternThen ha
      have hlt' := length_of_patternThen hb
      exact (settles_blockAfterBy h (by omega)).map _

/-- An `else` comes after a block that has been read, so its block is shorter as well. -/
theorem settles_statusRuleBy (h : SettlesBelow s.length rulesOf enough) :
    (statusRuleBy rulesOf s).Settles (statusRule s) enough := by
  rw [statusRuleBy]
  cases hs : after? ['s', 't', 'a', 't', 'u', 's', ':'] s with
  | none =>
      rw [statusRule_refused hs]
      exact settles_ended _ _
  | some s₁ =>
      have hword := length_of_after? hs
      rw [List.length_cons] at hword
      rw [after?_eq_some_iff.1 hs, statusRule_word]
      refine (settles_ended _ _).andThen fun code s₂ hcode => ?_
      have hle := length_of_statusCode hcode
      refine (settles_blockAfterBy h (by omega)).andThen fun body s₃ hbody => ?_
      rw [otherwiseAfter]
      cases helse : keyword? ['e', 'l', 's', 'e'] (skipLayout s₃) with
      | none => exact settles_ended _ _
      | some s₄ =>
          have hlt := length_of_blockAfter hbody
          have hle' := length_of_keyword? helse
          exact (settles_blockAfterBy h (by omega)).map _

end

/-- A round of a block takes one step more than its rule and the rounds after it. -/
theorem settles_round {n : Nat} {s : List Char}
    (hrule : (ruleWithin n .block (skipSeparators s)).Settles (rule .block (skipSeparators s))
      (s.length < n))
    (hrest : ∀ rest, rest.length < s.length →
      (rulesWithin n rest).Settles (rulesThenBrace rest) (s.length < n)) :
    (rulesWithin (n + 1) s).Settles (rulesThenBrace s) (s.length < n) := by
  rw [rulesWithin]
  refine hrule.bind ?_
  cases hr : rule .block (skipSeparators s) with
  | read r rest =>
      have hlt := length_of_next hr
      rw [rulesThenBrace_of_read hr]
      simp only [if_neg (Nat.ne_of_lt (utf8Size_of_rule hr))]
      exact (hrest rest hlt).map _
  | refused rest =>
      rw [rulesThenBrace, hr]
      exact settles_ended _ _
  | failed rest e =>
      rw [rulesThenBrace_of_failed hr]
      exact settles_ended _ _

/-- The induction is on the steps. A rule has one more than its blocks, which are shorter by its
word; the rounds of a block have one more than its rules, which may be as long as all of it. -/
theorem settles_within (n : Nat) :
    (∀ scope s, (ruleWithin n scope s).Settles (rule scope s) (s.length < n)) ∧
      ∀ s, (rulesWithin n s).Settles (rulesThenBrace s) (s.length + 1 < n) := by
  induction n with
  | zero => exact ⟨fun _ _ => .inr ⟨rfl, by omega⟩, fun _ => .inr ⟨rfl, by omega⟩⟩
  | succ n ih =>
      obtain ⟨hrule, hrules⟩ := ih
      constructor
      · intro scope s
        have hbelow : SettlesBelow s.length (rulesWithin n) (s.length < n + 1) :=
          fun t ht => (hrules t).mono (by omega)
        rw [rule, ruleWithin]
        exact (settles_ifRuleBy hbelow).orElse <| (settles_betweenRuleBy hbelow).orElse <|
          (settles_statusRuleBy hbelow).orElse (settles_ended _ _)
      · intro s
        have hle := length_skipSeparators_le s
        have hround := settles_round ((hrule .block (skipSeparators s)).mono (by omega))
          fun rest hlt => (hrules rest).mono (by omega)
        exact hround.mono (by omega)

theorem settles_blockWithin (n : Nat) (s : List Char) :
    (blockWithin n s).Settles (block s) (s.length < n) :=
  settles_blockBy fun t ht => ((settles_within n).2 t).mono (by omega)

/-- A rule that is read takes something, and a block at least its braces; inside a rule less and
less text is left. So readers that do not look at lengths come to the outcome of those that do, and
no block reads without end. -/
theorem reading_advances :
    (∀ scope s r rest, rule scope s = .read r rest → ∃ taken, taken ≠ [] ∧ Leaves s taken rest) ∧
      (∀ s rs rest, block s = .read rs rest →
        ∃ inside, Leaves s ('{' :: (inside ++ ['}'])) rest) ∧
      (∀ s r rest, rule .block (skipSeparators s) = .read r rest →
        utf8Size rest < utf8Size s) ∧
      (∀ s t, Reaches s t → t.length < s.length) ∧
      (∀ n scope s, ruleWithin n scope s ≠ .stalled ∧
        (s.length < n → ruleWithin n scope s = .ended (rule scope s))) ∧
      ∀ n s, blockWithin n s ≠ .stalled ∧
        (s.length < n → blockWithin n s = .ended (block s)) := by
  refine ⟨fun scope s r rest => exists_leaves_of_rule, fun s rs rest => exists_leaves_of_block,
    fun s r rest => utf8Size_of_rule, fun s t => length_of_reaches, fun n scope s => ?_,
    fun n s => ?_⟩
  · have hsettles := (settles_within n).1 scope s
    exact ⟨hsettles.ne_stalled, hsettles.eq_ended⟩
  · have hsettles := settles_blockWithin n s
    exact ⟨hsettles.ne_stalled, hsettles.eq_ended⟩

/-- A block after a pattern of two bytes, and the same text cut short. -/
theorem reading_advances_in_block :
    let s := "if/é/\x7bsort;join\x7dx".toList
    let body : List (Rule String) := [.arrange .sort, .arrange .join]
    rule .top s = .read (.ifMatch "é" body) ['x'] ∧
      block "\x7bsort;join\x7dx".toList = .read body ['x'] ∧
      rule .block (skipSeparators ";join\x7dx".toList) = .read (.arrange .join) "\x7dx".toList ∧
      Reaches s ";join\x7dx".toList ∧
      (∃ taken, taken ≠ [] ∧ Leaves s taken ['x']) ∧
      (∃ inside, Leaves "\x7bsort;join\x7dx".toList ('\x7b' :: (inside ++ ['\x7d'])) ['x']) ∧
      utf8Size "\x7dx".toList < utf8Size ";join\x7dx".toList ∧
      ";join\x7dx".toList.length < s.length ∧
      ruleWithin 18 .top s = .ended (.read (.ifMatch "é" body) ['x']) ∧
      blockWithin 13 "\x7bsort;join\x7dx".toList = .ended (.read body ['x']) ∧
      ruleWithin 7 .top "if/é/\x7b".toList = .ended (.failed [] .ruleOrCloseBrace) := by
  intro s body
  obtain ⟨htakes, hbraces, hround, hless, hrule, hblock⟩ := reading_advances
  have hwritten : WrittenBody body "sort;join\x7d".toList :=
    .cons (w := []) isSeparators_nil (.arrange .sort) (Ending.before_semicolon (by decide) _)
      (.cons (w := [';']) (by decide) (.arrange .join) (Ending.before_brace (by decide))
        (.nil (w := []) isSeparators_nil))
  have hbody : block "\x7bsort;join\x7dx".toList = .read body ['x'] :=
    (block_brace _).trans (rulesThenBrace_of_writtenBody hwritten ⟨trivial, trivial, trivial⟩ ['x'])
  have hread : rule .top s = .read (.ifMatch "é" body) ['x'] :=
    (rule_if .top "é/\x7bsort;join\x7dx".toList).trans
      (map_eq_read.2 ⟨body, orFail_eq_read.2 hbody, rfl⟩)
  have hsort : rule .block "sort;join\x7dx".toList = .read (.arrange .sort) ";join\x7dx".toList :=
    rule_arrange .block .sort fun c hc => by cases hc; decide
  have hjoin : rule .block "join\x7dx".toList = .read (.arrange .join) "\x7dx".toList :=
    rule_arrange .block .join fun c hc => by cases hc; decide
  have hcut : rule .top "if/é/\x7b".toList = .failed [] .ruleOrCloseBrace :=
    rule_failed_of_opens (.ifMatch rfl rfl) (by cbv)
  have hreaches : Reaches s ";join\x7dx".toList := .next (.opens (.ifMatch rfl rfl)) hsort
  refine ⟨hread, hbody, hjoin, hreaches, htakes _ _ _ _ hread, hbraces _ _ _ hbody,
    hround _ _ _ hjoin, hless _ _ hreaches, ?_, ?_, ?_⟩
  · rw [← hread]
    exact (hrule 18 .top s).2 (by decide)
  · rw [← hbody]
    exact (hblock 13 _).2 (by decide)
  · rw [← hcut]
    exact (hrule 7 .top _).2 (by decide)

end Reader
end Linewise
