import Linewise.Proofs.Rule.RoundTrip
import Mathlib.Data.List.Infix

/-!
The eight readers of a rule. A reader that does not refuse has seen one of its own words, and no
such word is the beginning of a word of another reader. So it does not matter in which order they
are tried, not even where the rules of blocks are read in that order as well.
-/
namespace Linewise

namespace Reading

variable {α β : Type}

/-- The same outcome. Of two refusals it does not matter how far they looked. -/
def Same : Reading α → Reading α → Prop
  | refused _, refused _ => True
  | r, r' => r = r'

theorem Same.refl (r : Reading α) : r.Same r := by
  cases r <;> trivial

theorem Same.eq_of_decides {r r' : Reading α} (h : r.Same r') (hd : r'.Decides) : r = r' := by
  cases r' with
  | refused _ => exact hd.elim
  | read _ _ | failed _ _ => cases r <;> exact h

theorem Same.exists_refused {r : Reading α} {rest : List Char} (h : r.Same (refused rest)) :
    ∃ rest', r = refused rest' := by
  cases r with
  | refused rest' => exact ⟨rest', rfl⟩
  | read _ _ | failed _ _ => cases h

theorem exists_refused_of_not_decides {r : Reading α} (h : ¬ r.Decides) :
    ∃ rest, r = refused rest := by
  cases r with
  | refused rest => exact ⟨rest, rfl⟩
  | read _ _ | failed _ _ => exact absurd trivial h

theorem andThen_congr {r : Reading α} {f g : α → List Char → Reading β}
    (h : ∀ a rest, r = read a rest → f a rest = g a rest) : r.andThen f = r.andThen g := by
  cases r with
  | read a rest => exact h a rest rfl
  | refused _ | failed _ _ => rfl

end Reading

namespace Reader

open Reading

/-- The outcome of the first reader that does not refuse, or that of the last one. -/
def firstOf {α : Type} : List (List Char → Reading α) → List Char → Reading α
  | [], s => .refused s
  | [f], s => f s
  | f :: fs, s => (f s).orElse fun _ => firstOf fs s

section

variable {α : Type} {fs gs : List (List Char → Reading α)} {s : List Char}

theorem firstOf_cons (f : List Char → Reading α) (hfs : fs ≠ []) :
    firstOf (f :: fs) s = (f s).orElse fun _ => firstOf fs s := by
  obtain ⟨g, gs, rfl⟩ := List.exists_cons_of_ne_nil hfs
  rfl

theorem firstOf_map_congr {ι : Type} {f g : ι → List Char → Reading α} (h : ∀ i, f i s = g i s)
    (l : List ι) : firstOf (l.map f) s = firstOf (l.map g) s := by
  induction l with
  | nil => rfl
  | cons i l ih =>
      cases l with
      | nil => exact h i
      | cons j l =>
          change (f i s).orElse (fun _ => firstOf ((j :: l).map f) s) =
            (g i s).orElse fun _ => firstOf ((j :: l).map g) s
          rw [h i, ih]

/-- Where all readers that do not refuse agree, one of them is as good as the first. -/
theorem firstOf_eq_of_mem {f : List Char → Reading α} (hf : f ∈ fs) (hd : (f s).Decides)
    (h : ∀ g ∈ fs, (g s).Decides → g s = f s) : firstOf fs s = f s := by
  induction fs with
  | nil => cases hf
  | cons g gs ih =>
      by_cases hg : (g s).Decides
      · rw [← h g List.mem_cons_self hg]
        cases gs with
        | nil => rfl
        | cons g' gs => exact orElse_of_decides hg _
      · have hne : f ≠ g := by
          rintro rfl
          exact hg hd
        have hmem : f ∈ gs := (List.mem_cons.1 hf).resolve_left hne
        obtain ⟨rest, hr⟩ := exists_refused_of_not_decides hg
        rw [firstOf_cons g (List.ne_nil_of_mem hmem), hr, refused_orElse]
        exact ih hmem fun g' hg' => h g' (List.mem_cons_of_mem _ hg')

theorem exists_firstOf_eq_refused (h : ∀ g ∈ fs, ¬ (g s).Decides) :
    ∃ rest, firstOf fs s = .refused rest := by
  induction fs with
  | nil => exact ⟨s, rfl⟩
  | cons g gs ih =>
      obtain ⟨rest, hr⟩ := exists_refused_of_not_decides (h g List.mem_cons_self)
      cases gs with
      | nil => exact ⟨rest, hr⟩
      | cons g' gs =>
          rw [firstOf_cons g (by simp), hr, refused_orElse]
          exact ih fun f hf => h f (List.mem_cons_of_mem _ hf)

/-- Readers of which at most one does not refuse can be tried in any order. -/
theorem firstOf_same (hmem : ∀ f, f ∈ gs ↔ f ∈ fs)
    (h : ∀ f ∈ fs, ∀ g ∈ fs, (f s).Decides → (g s).Decides → f s = g s) :
    (firstOf gs s).Same (firstOf fs s) := by
  by_cases hd : ∃ f ∈ fs, (f s).Decides
  · obtain ⟨f, hf, hd⟩ := hd
    rw [firstOf_eq_of_mem hf hd fun g hg hgd => h g hg f hf hgd hd,
      firstOf_eq_of_mem ((hmem f).2 hf) hd fun g hg hgd => h g ((hmem g).1 hg) f hf hgd hd]
    exact Same.refl _
  · have hnone : ∀ f ∈ fs, ¬ (f s).Decides := fun f hf hfd => hd ⟨f, hf, hfd⟩
    obtain ⟨rest, hr⟩ := exists_firstOf_eq_refused hnone
    obtain ⟨rest', hr'⟩ := exists_firstOf_eq_refused fun f hf => hnone f ((hmem f).1 hf)
    rw [hr, hr']
    trivial

end

/-- The readers of which one decides what a rule is. -/
inductive Alternative
  | ifMatch
  | between
  | onStatus
  | longPrint
  | shortPrint
  | substitute
  | setLine
  | arrange
deriving DecidableEq, Repr

namespace Alternative

/-- In the order in which they are tried. -/
def all : List Alternative :=
  [ifMatch, between, onStatus, longPrint, shortPrint, substitute, setLine, arrange]

def reader (scope : Scope) : Alternative → List Char → Reading (Rule String)
  | ifMatch => ifRule
  | between => betweenRule
  | onStatus => statusRule
  | longPrint => longPrintRule
  | shortPrint => shortPrintRule
  | substitute => substituteRule scope
  | setLine => setLineRule scope
  | arrange => arrangeRule

/-- What a text starts with that a reader does not refuse. -/
def words : Alternative → List (List Char)
  | ifMatch => ["if/".toList]
  | between => ["between/".toList]
  | onStatus => ["status:".toList]
  | longPrint => ["print".toList]
  | shortPrint => ["p:".toList, "p/".toList]
  | substitute => ["s/".toList, "g/".toList]
  | setLine => ["s:".toList]
  | arrange => ["sort".toList, "reverse".toList, "join".toList]

/-- No word of one reader is the beginning of a word of another. -/
theorem eq_of_isPrefix : ∀ a b : Alternative, ∀ w ∈ a.words, ∀ v ∈ b.words, w <+: v → a = b := by
  intro a b
  cases a <;> cases b <;> decide

end Alternative

theorem rule_eq_firstOf (scope : Scope) (s : List Char) :
    rule scope s = firstOf (Alternative.all.map (·.reader scope)) s := by
  rw [rule]
  rfl

theorem isPrefix_of_after? {word s rest : List Char} (h : after? word s = some rest) :
    word <+: s :=
  ⟨rest, (after?_eq_some_iff.1 h).symm⟩

/-- A reader that does not refuse a text has found one of its words there. -/
theorem Alternative.exists_word {scope : Scope} {a : Alternative} {s : List Char}
    (h : (a.reader scope s).Decides) : ∃ w ∈ a.words, w <+: s := by
  cases a with
  | ifMatch =>
      cases hs : after? ['i', 'f', '/'] s with
      | none => simp [reader, ifRule_refused hs, Decides] at h
      | some rest => exact ⟨_, by decide, isPrefix_of_after? hs⟩
  | between =>
      cases hs : after? ['b', 'e', 't', 'w', 'e', 'e', 'n', '/'] s with
      | none => simp [reader, betweenRule_refused hs, Decides] at h
      | some rest => exact ⟨_, by decide, isPrefix_of_after? hs⟩
  | onStatus =>
      cases hs : after? ['s', 't', 'a', 't', 'u', 's', ':'] s with
      | none => simp [reader, statusRule_refused hs, Decides] at h
      | some rest => exact ⟨_, by decide, isPrefix_of_after? hs⟩
  | longPrint =>
      cases hs : after? ['p', 'r', 'i', 'n', 't'] s with
      | none => simp [reader, longPrintRule, hs, Decides] at h
      | some rest => exact ⟨_, by decide, isPrefix_of_after? hs⟩
  | shortPrint =>
      simp only [reader] at h
      unfold shortPrintRule at h
      split at h
      · rename_i s
        by_cases hs : Selects s
        · obtain hs | hs := hs
          · obtain ⟨t, rfl⟩ := List.head?_eq_some_iff.1 hs
            exact ⟨['p', ':'], by decide, t, rfl⟩
          · obtain ⟨t, rfl⟩ := List.head?_eq_some_iff.1 hs
            exact ⟨['p', '/'], by decide, t, rfl⟩
        · rw [selector_refused hs] at h
          exact h.elim
      · exact h.elim
  | substitute =>
      cases hs : after? ['s', '/'] s with
      | some rest => exact ⟨_, by decide, isPrefix_of_after? hs⟩
      | none =>
          cases hg : after? ['g', '/'] s with
          | some rest => exact ⟨_, by decide, isPrefix_of_after? hg⟩
          | none => simp [reader, substituteRule_refused scope hs hg, Decides] at h
  | setLine =>
      cases hs : after? ['s', ':'] s with
      | none => simp [reader, setLineRule_refused scope hs, Decides] at h
      | some rest => exact ⟨_, by decide, isPrefix_of_after? hs⟩
  | arrange =>
      obtain ⟨how, rest, rfl, -⟩ | ⟨rest, rfl, -⟩ | hr := arrangeRule_cases s
      · exact ⟨how.word, by cases how <;> decide, rest, rfl⟩
      · exact ⟨['j', 'o', 'i', 'n'], by decide, rest, rfl⟩
      · simp [reader, hr, Decides] at h

/-- At most one of the readers does not refuse. -/
theorem Alternative.eq_of_decides {scope : Scope} {a b : Alternative} {s : List Char}
    (ha : (a.reader scope s).Decides) (hb : (b.reader scope s).Decides) : a = b := by
  obtain ⟨w, hw, hws⟩ := exists_word ha
  obtain ⟨v, hv, hvs⟩ := exists_word hb
  obtain hwv | hvw := List.prefix_or_prefix_of_prefix hws hvs
  · exact eq_of_isPrefix a b w hw v hv hwv
  · exact (eq_of_isPrefix b a v hv w hw hvw).symm

section

variable (nested : List Char → Reading (Rule String))

/-- The rules of a block up to its brace, given what reads one of them. -/
def rulesThenBraceWith (s : List Char) : Reading (List (Rule String)) :=
  match nested (skipSeparators s) with
  | .read r rest =>
      if rest.length < s.length then (rulesThenBraceWith rest).map (r :: ·)
      else .failed rest .ruleOrCloseBrace
  | .refused _ =>
      match skipSeparators s with
      | '}' :: rest => .read [] rest
      | rest => .failed rest .ruleOrCloseBrace
  | .failed rest e => .failed rest e
termination_by s.length

def blockWith : List Char → Reading (List (Rule String))
  | '{' :: s => rulesThenBraceWith nested s
  | s => .refused s

def blockAfterWith (s : List Char) : Reading (List (Rule String)) :=
  (blockWith nested (skipLayout s)).orFail .openBrace

def ifRuleWith (s : List Char) : Reading (Rule String) :=
  match after? ['i', 'f', '/'] s with
  | none => .refused s
  | some s => (closedPattern s).andThen fun p s => (blockAfterWith nested s).map (.ifMatch p)

def betweenRuleWith (s : List Char) : Reading (Rule String) :=
  match after? ['b', 'e', 't', 'w', 'e', 'e', 'n', '/'] s with
  | none => .refused s
  | some s =>
      (patternThen .startPattern .slash s).andThen fun a s =>
        (closedPattern s).andThen fun b s => (blockAfterWith nested s).map (.between a b)

def statusRuleWith (s : List Char) : Reading (Rule String) :=
  match after? ['s', 't', 'a', 't', 'u', 's', ':'] s with
  | none => .refused s
  | some s =>
      (statusCode s).andThen fun code s => (blockAfterWith nested s).andThen fun body s =>
        match keyword? ['e', 'l', 's', 'e'] (skipLayout s) with
        | some s => (blockAfterWith nested s).map (.onStatus code body)
        | none => .read (.onStatus code body []) s

def Alternative.readerWith (scope : Scope) : Alternative → List Char → Reading (Rule String)
  | ifMatch => ifRuleWith nested
  | between => betweenRuleWith nested
  | onStatus => statusRuleWith nested
  | a => a.reader scope

end

/-- Reads a rule, and the rules of its blocks, with the readers in a given order. Blocks are read from
shorter text. -/
def ruleIn (order : List Alternative) (scope : Scope) (s : List Char) : Reading (Rule String) :=
  firstOf (order.map fun a => a.readerWith
    (fun t => if t.length < s.length then ruleIn order .block t else .refused t) scope) s
termination_by s.length

/-- Text below some length in which the rules of blocks are read as ever. -/
def AgreesBelow (n : Nat) (nested : List Char → Reading (Rule String)) : Prop :=
  ∀ t, t.length < n → (nested t).Same (rule .block t)

section

variable {nested : List Char → Reading (Rule String)} {s : List Char}

theorem AgreesBelow.mono {m n : Nat} (h : AgreesBelow n nested) (hmn : m ≤ n) :
    AgreesBelow m nested :=
  fun t ht => h t (Nat.lt_of_lt_of_le ht hmn)

theorem rulesThenBraceWith_eq (h : AgreesBelow (s.length + 1) nested) :
    rulesThenBraceWith nested s = rulesThenBrace s := by
  induction hn : s.length using Nat.strong_induction_on generalizing s with
  | _ n ih =>
      subst hn
      have hsame := h (skipSeparators s) (Nat.lt_succ_of_le (length_skipSeparators_le s))
      rw [rulesThenBraceWith, rulesThenBrace]
      cases hr : rule .block (skipSeparators s) with
      | read r rest =>
          rw [hr] at hsame
          rw [hsame.eq_of_decides trivial]
          simp only
          split
          · rename_i hlt
            rw [ih rest.length hlt (h.mono (by omega)) rfl]
          · rfl
      | refused rest =>
          rw [hr] at hsame
          obtain ⟨rest', hr'⟩ := hsame.exists_refused
          exact hr' ▸ rfl
      | failed rest e =>
          rw [hr] at hsame
          rw [hsame.eq_of_decides trivial]

theorem blockWith_eq (h : AgreesBelow s.length nested) : blockWith nested s = block s := by
  unfold blockWith
  split
  · rw [block_brace]
    exact rulesThenBraceWith_eq h
  · rename_i hbrace
    rw [block]
    exact hbrace

theorem blockAfterWith_eq (h : AgreesBelow s.length nested) :
    blockAfterWith nested s = blockAfter s := by
  rw [blockAfterWith, blockAfter, blockWith_eq (h.mono (length_skipLayout_le s))]

theorem ifRuleWith_eq (h : AgreesBelow s.length nested) : ifRuleWith nested s = ifRule s := by
  rw [ifRuleWith]
  cases hs : after? ['i', 'f', '/'] s with
  | none => exact (ifRule_refused hs).symm
  | some s₁ =>
      have hword := length_of_after? hs
      rw [after?_eq_some_iff.1 hs, ifRule_word]
      refine andThen_congr fun p s₂ hp => ?_
      have hlt := length_of_patternThen hp
      rw [blockAfterWith_eq (h.mono (by omega))]

theorem betweenRuleWith_eq (h : AgreesBelow s.length nested) :
    betweenRuleWith nested s = betweenRule s := by
  rw [betweenRuleWith]
  cases hs : after? ['b', 'e', 't', 'w', 'e', 'e', 'n', '/'] s with
  | none => exact (betweenRule_refused hs).symm
  | some s₁ =>
      have hword := length_of_after? hs
      rw [after?_eq_some_iff.1 hs, betweenRule_word]
      refine andThen_congr fun a s₂ ha => andThen_congr fun b s₃ hb => ?_
      have hlt := length_of_patternThen ha
      have hlt' := length_of_patternThen hb
      rw [blockAfterWith_eq (h.mono (by omega))]

theorem statusRuleWith_eq (h : AgreesBelow s.length nested) :
    statusRuleWith nested s = statusRule s := by
  rw [statusRuleWith]
  cases hs : after? ['s', 't', 'a', 't', 'u', 's', ':'] s with
  | none => exact (statusRule_refused hs).symm
  | some s₁ =>
      have hword := length_of_after? hs
      rw [after?_eq_some_iff.1 hs, statusRule_word]
      refine andThen_congr fun code s₂ hcode => ?_
      have hle := length_of_statusCode hcode
      rw [blockAfterWith_eq (h.mono (by omega))]
      refine andThen_congr fun body s₃ hbody => ?_
      rw [otherwiseAfter]
      cases helse : keyword? ['e', 'l', 's', 'e'] (skipLayout s₃) with
      | none => rfl
      | some s₄ =>
          have hlt := length_of_blockAfter hbody
          have hle' := length_of_keyword? helse
          simp only
          rw [blockAfterWith_eq (h.mono (by omega))]

theorem Alternative.readerWith_eq {scope : Scope} (a : Alternative)
    (h : AgreesBelow s.length nested) : a.readerWith nested scope s = a.reader scope s := by
  cases a with
  | ifMatch => exact ifRuleWith_eq h
  | between => exact betweenRuleWith_eq h
  | onStatus => exact statusRuleWith_eq h
  | longPrint | shortPrint | substitute | setLine | arrange => rfl

end

section

variable {order : List Alternative}

theorem firstOf_order_same (h : order.Perm Alternative.all) (scope : Scope) (s : List Char) :
    (firstOf (order.map (·.reader scope)) s).Same (rule scope s) := by
  rw [rule_eq_firstOf]
  refine firstOf_same (fun f => (h.map _).mem_iff) fun f hf g hg hfd hgd => ?_
  obtain ⟨a, -, rfl⟩ := List.mem_map.1 hf
  obtain ⟨b, -, rfl⟩ := List.mem_map.1 hg
  rw [Alternative.eq_of_decides hfd hgd]

theorem firstOf_readerWith {nested : List Char → Reading (Rule String)} {s : List Char}
    (h : AgreesBelow s.length nested) (scope : Scope) :
    firstOf (order.map (·.readerWith nested scope)) s =
      firstOf (order.map (·.reader scope)) s :=
  firstOf_map_congr (fun a => a.readerWith_eq h) order

theorem ruleIn_same (h : order.Perm Alternative.all) (scope : Scope) (s : List Char) :
    (ruleIn order scope s).Same (rule scope s) := by
  induction hn : s.length using Nat.strong_induction_on generalizing scope s with
  | _ n ih =>
      subst hn
      rw [ruleIn, firstOf_readerWith]
      · exact firstOf_order_same h scope s
      · intro t ht
        simp only [if_pos ht]
        exact ih t.length ht .block t rfl

/-- The check of length in `ruleIn` never fails. -/
theorem ruleIn_eq (h : order.Perm Alternative.all) (scope : Scope) (s : List Char) :
    ruleIn order scope s =
      firstOf (order.map (·.readerWith (ruleIn order .block) scope)) s := by
  have hbelow : AgreesBelow s.length (ruleIn order .block) := fun t _ => ruleIn_same h .block t
  rw [ruleIn, firstOf_readerWith hbelow, firstOf_readerWith]
  intro t ht
  simp only [if_pos ht]
  exact hbelow t ht

end

/-- No two of the eight readers of `rule` decide the same text. So they can be tried in any order,
in blocks as well: the same rule is read with the same text left, reading fails in the same place,
or the text is refused. -/
theorem rule_in_any_order :
    (∀ scope s, rule scope s = firstOf (Alternative.all.map (·.reader scope)) s) ∧
      (∀ scope s (a b : Alternative), (a.reader scope s).Decides → a ≠ b →
        ∃ rest, b.reader scope s = .refused rest) ∧
      ∀ order : List Alternative, order.Perm Alternative.all → ∀ scope s,
        ruleIn order scope s =
            firstOf (order.map (·.readerWith (ruleIn order .block) scope)) s ∧
          (ruleIn order scope s).Same (rule scope s) := by
  refine ⟨rule_eq_firstOf, fun scope s a b ha hab => ?_,
    fun order h scope s => ⟨ruleIn_eq h scope s, ruleIn_same h scope s⟩⟩
  exact exists_refused_of_not_decides fun hb => hab (Alternative.eq_of_decides ha hb)

/-- A word of the last reader, in a block of the first one. -/
theorem rule_in_any_order_reversed :
    Alternative.all.reverse.Perm Alternative.all ∧
      ruleIn Alternative.all.reverse .top "if/a/\x7bsort\x7d".toList =
        .read (.ifMatch "a" [.arrange .sort]) [] := by
  have hperm : Alternative.all.reverse.Perm Alternative.all := by decide
  have hpattern : IsPattern "a" := ⟨by decide, .alone (by decide) rfl .nil⟩
  have hsort : WrittenBody [.arrange .sort] "sort\x7d".toList :=
    .single (.arrange .sort) (by decide)
  have hread : rule .top ("if/a/\x7bsort\x7d".toList ++ []) =
      .read (.ifMatch "a" [.arrange .sort]) [] :=
    rule_of_written (.ifMatch (w := []) isLayout_nil hsort) ⟨hpattern, trivial, trivial⟩ trivial
      (clear_of_isLayout isLayout_nil)
  have hsame := (rule_in_any_order.2.2 _ hperm .top "if/a/\x7bsort\x7d".toList).2
  rw [List.append_nil] at hread
  rw [hread] at hsame
  exact ⟨hperm, hsame.eq_of_decides trivial⟩

end Reader
end Linewise
