import Linewise.Proofs.Rule.Nesting

/-!
Texts that are cut short. A reader that stops after a character which closes what it reads has not
looked any further, so it takes the same from any other text that goes on differently there. Patterns
and blocks are read in this way, and with them the rules that end in a block: what is missing at their
end is always noticed.
-/
namespace Linewise

/-- Whether a rule always ends in the brace of a block. After a status rule an `else` may stand. -/
def Rule.endsInBlock : Rule String → Bool
  | .ifMatch _ _ | .between _ _ _ => true
  | _ => false

/-- A block ends in its brace. -/
theorem WrittenBody.exists_brace {rs : List (Rule String)} {v : List Char} :
    WrittenBody rs v → ∃ u, v = u ++ ['}']
  | .nil _ => ⟨_, rfl⟩
  | .cons (w := w) (u := u) _ _ _ hv => by
      obtain ⟨v, rfl⟩ := hv.exists_brace
      exact ⟨w ++ (u ++ v), by simp⟩

theorem Written.endsInBlock_of_head {scope : Scope} {r : Rule String} {e : Ending} {u : List Char}
    (h : Written scope r e u) (hu : u.head? = some 'i' ∨ u.head? = some 'b') :
    r.endsInBlock = true := by
  cases h with
  | @substituteClosed _ _ _ everywhere _ | @substituteOpen _ _ _ everywhere _
  | @substituteDangling _ _ _ everywhere _ => cases everywhere <;> simp at hu
  | setLine _ | onStatus _ _ | onStatusElse _ _ _ _ _ | keepAll => simp at hu
  | keepMatching hw | keepIndex hw _ | keepRange hw _ _ => simp [hw.head] at hu
  | arrange how => cases how <;> simp [Arrangement.word] at hu
  | ifMatch _ _ | between _ _ => rfl

namespace Reader

open Reading

variable {α β : Type} {c d : Char}

/-- What a reader takes ends in a character, and does not depend on what follows that. -/
def TakesTo (c : Char) (f : List Char → Reading α) : Prop :=
  ∀ s a rest, f s = .read a rest →
    ∃ u, s = u ++ c :: rest ∧ ∀ rest', f (u ++ c :: rest') = .read a rest'

theorem TakesTo.map {f : List Char → Reading α} (hf : TakesTo c f) (g : α → β) :
    TakesTo c fun s => (f s).map g := by
  intro s b rest h
  obtain ⟨a, ha, rfl⟩ := map_eq_read.1 h
  obtain ⟨u, rfl, hu⟩ := hf s a rest ha
  exact ⟨u, rfl, fun rest' => map_eq_read.2 ⟨a, hu rest', rfl⟩⟩

theorem TakesTo.andThen {f : List Char → Reading α} {g : α → List Char → Reading β}
    (hf : TakesTo c f) (hg : ∀ a, TakesTo d (g a)) :
    TakesTo d fun s => (f s).andThen g := by
  intro s b rest h
  cases ha : f s with
  | read a rest₁ =>
      simp only [ha, Reading.andThen] at h
      obtain ⟨u, rfl, hu⟩ := hf s a rest₁ ha
      obtain ⟨v, rfl, hv⟩ := hg a rest₁ b rest h
      refine ⟨u ++ c :: v, by simp, fun rest' => ?_⟩
      simp only [List.append_assoc, List.cons_append, hu, Reading.andThen, hv]
  | refused _ | failed _ _ => simp [ha, Reading.andThen] at h

/-- The word in front of a reader is read every time. -/
theorem TakesTo.after {f : List Char → Reading α} {w : List Char} {g : List Char → Reading α}
    (hf : TakesTo c f) (hword : ∀ s, g (w ++ s) = f s)
    (hother : ∀ s, after? w s = none → g s = .refused s) : TakesTo c g := by
  intro s a rest h
  cases hs : after? w s with
  | none =>
      rw [hother s hs] at h
      cases h
  | some t =>
      rw [after?_eq_some_iff.1 hs] at h ⊢
      rw [hword] at h
      obtain ⟨u, rfl, hu⟩ := hf t a rest h
      refine ⟨w ++ u, by simp, fun rest' => ?_⟩
      rw [List.append_assoc, hword, hu]

theorem takesTo_patternThen (missing unclosed : Expected) :
    TakesTo '/' (patternThen missing unclosed) := by
  intro s p rest h
  have ht := patternThen_traces missing unclosed s
  rw [h] at ht
  obtain ⟨u, rfl, hp, rfl⟩ := ht
  exact ⟨escapeSlashes p.toList, by simp, patternThen_written hp missing unclosed⟩

theorem takesTo_rulesThenBrace : TakesTo '}' rulesThenBrace := by
  intro s rs rest h
  have ht := rulesThenBrace_traces s
  rw [h] at ht
  obtain ⟨v, rfl, hv, hrs⟩ := ht
  obtain ⟨u, rfl⟩ := hv.exists_brace
  refine ⟨u, by simp, fun rest' => ?_⟩
  simpa using rulesThenBrace_of_writtenBody hv hrs rest'

theorem takesTo_block : TakesTo '}' block := by
  refine takesTo_rulesThenBrace.after (w := ['{']) block_brace fun s hs => ?_
  obtain ⟨t, rfl, -⟩ | hr := block_cases s
  · cases hs
  · exact hr

theorem takesTo_blockAfter : TakesTo '}' blockAfter := by
  intro s rs rest h
  have ht := blockAfter_traces (s := s) fun t _ => rulesThenBrace_traces t
  rw [h] at ht
  obtain ⟨_, rfl, w, v, hw, rfl, hv, hrs⟩ := ht
  obtain ⟨u, rfl⟩ := hv.exists_brace
  refine ⟨w ++ '{' :: u, by simp, fun rest' => ?_⟩
  have hbody := rulesThenBrace_of_writtenBody hv hrs rest'
  simpa using blockAfter_written hw hbody

theorem takesTo_ifAfter : TakesTo '}' ifAfter :=
  (takesTo_patternThen _ _).andThen fun _ => takesTo_blockAfter.map _

theorem takesTo_betweenAfter : TakesTo '}' betweenAfter :=
  (takesTo_patternThen _ _).andThen fun _ =>
    (takesTo_patternThen _ _).andThen fun _ => takesTo_blockAfter.map _

theorem takesTo_ifRule : TakesTo '}' ifRule :=
  takesTo_ifAfter.after ifRule_word fun _ => ifRule_refused

theorem takesTo_betweenRule : TakesTo '}' betweenRule :=
  takesTo_betweenAfter.after betweenRule_word fun _ => betweenRule_refused

/-- Where a rule that ends in a block has been read, it is read from every text that starts alike. -/
theorem rule_takes_to_brace {scope : Scope} {s rest : List Char} {r : Rule String}
    (h : rule scope s = .read r rest) (hr : r.endsInBlock = true) :
    (s.head? = some 'i' ∨ s.head? = some 'b') ∧
      ∃ u, s = u ++ '}' :: rest ∧ ∀ rest', rule scope (u ++ '}' :: rest') = .read r rest' := by
  have ho := rule_outcome scope s
  rw [h] at ho
  obtain ⟨u, e, rfl, hu, -⟩ := ho
  cases hu with
  | ifMatch _ _ =>
      rw [List.append_assoc, rule_if] at h
      obtain ⟨v, hv, hread⟩ := takesTo_ifAfter _ _ _ h
      refine ⟨.inl rfl, ['i', 'f', '/'] ++ v, by rw [List.append_assoc, hv]; simp, fun rest' => ?_⟩
      rw [List.append_assoc, rule_if, hread]
  | between _ _ =>
      rw [List.append_assoc, rule_between] at h
      obtain ⟨v, hv, hread⟩ := takesTo_betweenAfter _ _ _ h
      refine ⟨.inr rfl, ['b', 'e', 't', 'w', 'e', 'e', 'n', '/'] ++ v,
        by rw [List.append_assoc, hv]; simp, fun rest' => ?_⟩
      rw [List.append_assoc, rule_between, hread]
  | _ => cases hr

theorem skipLayout_append {s : List Char} (h : skipLayout s ≠ []) (t : List Char) :
    skipLayout (s ++ t) = skipLayout s ++ t := by
  have hempty : ¬ (s.dropWhile isLayout).isEmpty := mt List.isEmpty_iff.1 h
  rw [skipLayout, List.dropWhile_append, if_neg hempty, skipLayout]

end Reader

theorem Rule.exists_of_read {source : String} {r : Rule String} (h : Rule.read source = .ok r) :
    ∃ rest, Reader.rule .top (Reader.skipLayout source.toList) = .read r rest ∧
      IsLayout rest := by
  simp only [Rule.read] at h
  split at h
  · rename_i r' rest hr
    split at h
    · rename_i hrest
      cases h
      exact ⟨rest, hr, fun c hc => List.dropWhile_eq_nil_iff.1 hrest c hc⟩
    · cases h
  · cases h
  · cases h

/-- The brace at the end of a text is the end of its block. -/
theorem Rule.eq_nil_of_last {source : String} {rest : List Char}
    (hlast : source.toList.getLast? = some '}') (hs : rest <:+ source.toList)
    (hrest : IsLayout rest) : rest = [] := by
  obtain ⟨u, hu⟩ := hs
  obtain rfl | ⟨w, c, rfl⟩ := rest.eq_nil_or_concat
  · rfl
  · rw [← hu, List.concat_eq_append, ← List.append_assoc, List.getLast?_concat] at hlast
    cases hlast
    exact absurd (hrest '}' (by simp)) (by decide)

/-- A text that goes on to the text of a rule with a block at its end is that whole text, or none. -/
theorem Rule.eq_nil_of_read_append {source pre : String} {r r' : Rule String} {x : List Char}
    (h : Rule.read source = .ok r) (hr : r.endsInBlock = true)
    (hlast : source.toList.getLast? = some '}') (hx : source.toList = pre.toList ++ x)
    (h' : Rule.read pre = .ok r') : x = [] := by
  obtain ⟨rest, hread, hrest⟩ := Rule.exists_of_read h
  obtain ⟨rest', hread', -⟩ := Rule.exists_of_read h'
  have hne : Reader.skipLayout pre.toList ≠ [] := by
    intro hnil
    have hlt := Reader.length_of_rule hread'
    rw [hnil] at hlt
    exact Nat.not_lt_zero _ hlt
  have hskip := Reader.skipLayout_append hne x
  rw [← hx] at hskip
  obtain ⟨hhead, u, hu, -⟩ := Reader.rule_takes_to_brace hread hr
  -- The shorter text starts with the same word, so it is that of a rule with a block as well.
  have hr' : r'.endsInBlock = true := by
    have ho := Reader.rule_outcome .top (Reader.skipLayout pre.toList)
    rw [hread'] at ho
    obtain ⟨v, e, hv, hwritten, -⟩ := ho
    obtain ⟨c, -, hc⟩ := hwritten.head
    rw [hskip, hv, List.head?_append, List.head?_append, hc] at hhead
    exact hwritten.endsInBlock_of_head (by rwa [hc])
  obtain ⟨-, v, hv, hread''⟩ := Reader.rule_takes_to_brace hread' hr'
  have hsame := hread'' (rest' ++ x)
  rw [← List.cons_append, ← List.append_assoc, ← hv, ← hskip, hread] at hsame
  cases hsame
  have hsuffix : rest' ++ x <:+ source.toList := by
    refine List.IsSuffix.trans ⟨u ++ ['}'], ?_⟩ (List.dropWhile_suffix isLayout)
    rw [List.append_assoc, List.singleton_append, ← hu]
    rfl
  exact (List.append_eq_nil_iff.1 (Rule.eq_nil_of_last hlast hsuffix hrest)).2

/-- A text of a rule that ends in a block, up to its brace, is no rule as soon as anything is
missing at its end, since what the readers of such rules and of blocks take is closed by a brace. -/
theorem Rule.read_cut_short :
    (∀ (source : String) (r : Rule String), Rule.read source = .ok r → r.endsInBlock = true →
        source.toList.getLast? = some '}' →
        ∀ pre : String, pre.toList <+: source.toList → pre ≠ source →
          ∀ r', Rule.read pre ≠ .ok r') ∧
      Reader.TakesTo '}' Reader.ifRule ∧ Reader.TakesTo '}' Reader.betweenRule ∧
      Reader.TakesTo '}' Reader.block := by
  refine ⟨fun source r h hr hlast pre ⟨x, hx⟩ hne r' h' => hne ?_,
    Reader.takesTo_ifRule, Reader.takesTo_betweenRule, Reader.takesTo_block⟩
  have hnil := Rule.eq_nil_of_read_append h hr hlast hx.symm h'
  rw [hnil, List.append_nil] at hx
  exact String.toList_inj.1 hx

/-- The first brace of two closes the inner block alone. -/
theorem Rule.read_cut_short_nested :
    Rule.read "between/a/b/\x7bif/c/\x7bsort\x7d\x7d" =
        .ok (.between "a" "b" [.ifMatch "c" [.arrange .sort]]) ∧
      ∀ r, Rule.read "between/a/b/\x7bif/c/\x7bsort\x7d" ≠ .ok r := by
  have hpattern : ∀ c, c ≠ '\\' → IsPattern (String.singleton c) := by
    intro c hc
    rw [String.singleton_eq_ofList]
    exact isPattern_ofList (by simp) (.alone hc rfl .nil)
  have hsort : WrittenBody [.arrange .sort] "sort\x7d".toList :=
    .single (.arrange .sort) (by decide)
  have hif : WrittenBody [.ifMatch "c" [.arrange .sort]] "if/c/\x7bsort\x7d\x7d".toList :=
    .single (.ifMatch (w := []) isLayout_nil hsort) (by decide)
  have hread : Rule.read "between/a/b/\x7bif/c/\x7bsort\x7d\x7d" =
      .ok (.between "a" "b" [.ifMatch "c" [.arrange .sort]]) :=
    Rule.read_of_writtenAs
      ⟨hpattern 'a' (by decide), hpattern 'b' (by decide), ⟨hpattern 'c' (by decide), trivial,
        trivial⟩, trivial⟩
      ⟨[], _, [], .closed, isLayout_nil, isLayout_nil, .between (w := []) isLayout_nil hif, trivial,
        rfl⟩
  exact ⟨hread, Rule.read_cut_short.1 _ _ hread rfl rfl _ ⟨['}'], rfl⟩ (by decide)⟩

end Linewise
