import Linewise.Proofs.Rule.Truncation

/-!
Neighbours in a block. Where the text of a rule ends in a slash, a brace or a digit that closes it,
the next rule may follow at once. A rule that ends in a word, or in free text that nothing closes,
always has a separator after it. At top level no rule follows another one.
-/
namespace Linewise

/-- In a text, reading comes to a rule of a block, at any depth, and then to the next rule of the block,
which stands after the text of the first one and after some separators, if there are any. -/
structure Rule.Neighbours (source : String) (r r' : Rule String)
    (before u w u' rest : List Char) : Prop where
  text : source.toList = before ++ (u ++ (w ++ (u' ++ rest)))
  inBlock : Rule.InBlock source (u ++ (w ++ (u' ++ rest)))
  first : Reader.rule .block (u ++ (w ++ (u' ++ rest))) = .read r (w ++ (u' ++ rest))
  separators : IsSeparators w
  next : Reader.rule .block (u' ++ rest) = .read r' rest

/-- Whether a character closes the text of the rule that it ends. -/
def Closes (c : Char) : Prop := c = '/' ∨ c = '}' ∨ c.isDigit = true

/-- Text that ends in a character that closes it. -/
def EndsClosed (u : List Char) : Prop := ∃ v c, u = v ++ [c] ∧ Closes c

section

variable {c : Char} {u w : List Char}

theorem endsClosed_concat (hc : Closes c) : EndsClosed (u ++ [c]) := ⟨u, c, rfl, hc⟩

theorem EndsClosed.append (h : EndsClosed u) : EndsClosed (w ++ u) := by
  obtain ⟨v, c, rfl, hc⟩ := h
  rw [← List.append_assoc]
  exact endsClosed_concat hc

theorem EndsClosed.cons (h : EndsClosed u) : EndsClosed (c :: u) := .append (w := [c]) h

theorem endsClosed_slash : EndsClosed (u ++ ['/']) := endsClosed_concat (.inl rfl)

end

theorem IsNumeral.endsClosed {n : Nat} {d : List Char} (h : IsNumeral n d) : EndsClosed d := by
  obtain hnil | ⟨v, c, rfl⟩ := d.eq_nil_or_concat
  · exact absurd hnil h.ne_nil
  · rw [List.concat_eq_append] at h ⊢
    exact endsClosed_concat (.inr (.inr (h.isDigit c (by simp))))

theorem IsSignedNumeral.endsClosed {n : Int} {d : List Char} (h : IsSignedNumeral n d) :
    EndsClosed d := by
  obtain ⟨e, he, ⟨-, rfl⟩ | ⟨-, rfl⟩⟩ := h
  · exact he.endsClosed
  · exact .cons he.endsClosed

theorem WrittenBody.endsClosed {rs : List (Rule String)} {v : List Char} (h : WrittenBody rs v) :
    EndsClosed v := by
  obtain ⟨u, rfl⟩ := h.exists_brace
  exact endsClosed_concat (.inr (.inl rfl))

theorem Scope.textEnding_ne_closed (scope : Scope) : scope.textEnding ≠ .closed := by
  cases scope <;> decide

/-- The text of a rule that needs nothing after it is closed. -/
theorem Written.endsClosed {scope : Scope} {r : Rule String} {e : Ending} {u : List Char}
    (h : Written scope r e u) (he : e = .closed) : EndsClosed u := by
  cases h with
  | substituteClosed _ => exact .append (.append (.cons endsClosed_slash))
  | substituteOpen _ | setLine _ => exact absurd he scope.textEnding_ne_closed
  | substituteDangling _ | keepAll | arrange _ => cases he
  | keepMatching _ => exact .append (.cons endsClosed_slash)
  | keepIndex _ hd => exact .append (.cons hd.endsClosed)
  | keepRange _ _ hd => exact .append (.cons (.append (.cons hd.endsClosed)))
  | ifMatch _ hv => exact .append (.append (.cons (.append (.cons hv.endsClosed))))
  | between _ hv =>
      exact .append (.append (.cons (.append (.cons (.append (.cons hv.endsClosed))))))
  | onStatus _ hv => exact .append (.append (.append (.cons hv.endsClosed)))
  | onStatusElse _ _ _ _ hv =>
      refine .append (.append (.append (.cons (.append ?_))))
      exact .append (.append (.append (.cons hv.endsClosed)))

theorem Closes.not_isSeparator {c : Char} (h : Closes c) : isSeparator c = false := by
  obtain rfl | rfl | hdigit := h
  · decide
  · decide
  · refine Bool.eq_false_iff.2 fun hsep => ?_
    rw [(Reader.no_number_of_isSeparator hsep).1] at hdigit
    cases hdigit

/-- At top level no character ends free text. -/
theorem escapable_top {t : List Char} (h : Escapable Scope.block.endsText t) :
    Escapable Scope.top.endsText t :=
  h.mono (fun _ _ => rfl) fun _ hc => hc

theorem Rule.WellFormed.top {r : Rule String} (h : r.WellFormed .block) : r.WellFormed .top := by
  cases r with
  | substitute _ _ _ => exact ⟨h.1, .inl (escapable_top h.2)⟩
  | setLine _ _ => exact ⟨h.1, fun _ _ => rfl⟩
  | idle => exact h.elim
  | keepMatching _ | keepLines _ | keepAll | arrange _ | ifMatch _ _ | between _ _ _
  | onStatus _ _ _ => exact h

/-- The text of a rule in a block is its text at top level, and is as closed there. -/
theorem Written.top {r : Rule String} {e : Ending} {u : List Char} (h : Written .block r e u) :
    ∃ e', Written .top r e' u ∧ (e = .closed → e' = .closed) := by
  cases h with
  | substituteClosed ht => exact ⟨_, .substituteClosed (escapable_top ht), fun _ => rfl⟩
  | substituteOpen ht => exact ⟨_, .substituteOpen (escapable_top ht), fun he => nomatch he⟩
  | substituteDangling ht =>
      obtain ⟨s, hs, ht⟩ := ht
      exact ⟨_, .substituteDangling ⟨s, escapable_top hs, ht⟩, fun he => nomatch he⟩
  | setLine hd => exact ⟨_, .setLine hd, fun he => nomatch he⟩
  | keepMatching hw => exact ⟨_, .keepMatching hw, fun _ => rfl⟩
  | keepIndex hw hd => exact ⟨_, .keepIndex hw hd, fun _ => rfl⟩
  | keepRange hw hd hd' => exact ⟨_, .keepRange hw hd hd', fun _ => rfl⟩
  | keepAll => exact ⟨_, .keepAll, fun he => nomatch he⟩
  | arrange how => exact ⟨_, .arrange how, fun he => nomatch he⟩
  | ifMatch hw hv => exact ⟨_, .ifMatch hw hv, fun _ => rfl⟩
  | between hw hv => exact ⟨_, .between hw hv, fun _ => rfl⟩
  | onStatus hw hv => exact ⟨_, .onStatus hw hv, fun _ => rfl⟩
  | onStatusElse hw hv hw₁ hw₂ hv' => exact ⟨_, .onStatusElse hw hv hw₁ hw₂ hv', fun _ => rfl⟩

namespace Reader

/-- What is read as a rule of a block is a text of it, and unless the input ends there, one after
which the block may go on. -/
theorem written_of_rule {u rest : List Char} {r : Rule String}
    (h : rule .block (u ++ rest) = .read r rest) :
    ∃ e, Written .block r e u ∧ e.Left rest ∧ (rest ≠ [] → r.WellFormed .block ∧ e ≠ .last) := by
  have ho := rule_outcome .block (u ++ rest)
  rw [h] at ho
  obtain ⟨v, e, heq, hv, hleft, hgoes⟩ := ho
  rw [List.append_cancel_right heq]
  refine ⟨e, hv, hleft, fun hrest => ?_⟩
  obtain ⟨hr, he⟩ | ⟨-, hnil, -⟩ := hgoes
  · exact ⟨hr, he rfl⟩
  · exact absurd hnil hrest

section

variable {s : List Char} {c : Char}

theorem skipLayout_of_letter (hs : s.head? = some c) (hc : c ∈ ruleLetters) :
    skipLayout s = s := by
  refine skipLayout_run (w := []) isLayout_nil fun d hd => ?_
  rw [hs] at hd
  cases hd
  exact (writtenBody_letter (.inr hc)).2.1

theorem skipSeparators_of_letter {w : List Char} (hw : IsSeparators w) (hs : s.head? = some c)
    (hc : c ∈ ruleLetters) : skipSeparators (w ++ s) = s := by
  refine skipSeparators_run hw fun d hd => ?_
  rw [hs] at hd
  cases hd
  exact (writtenBody_letter (.inr hc)).1

/-- A number and a status rule stop at the letter of another rule. -/
theorem clear_of_letter (hs : s.head? = some c) (hc : c ∈ ruleLetters) : Clear s := by
  obtain ⟨-, -, hdigit, hhyphen, helse⟩ := writtenBody_letter (.inr hc)
  refine ⟨fun d hd => ?_, ?_⟩
  · rw [hs] at hd
    cases hd
    exact ⟨hdigit, hhyphen⟩
  · rw [skipLayout_of_letter hs hc]
    exact keyword?_eq_none_of_head hs rfl helse

end

end Reader

theorem Written.head_append {scope : Scope} {r : Rule String} {e : Ending} {u : List Char}
    (h : Written scope r e u) (rest : List Char) :
    ∃ c ∈ ruleLetters, (u ++ rest).head? = some c := by
  obtain ⟨c, hc, hhead⟩ := h.head
  exact ⟨c, hc, by rw [List.head?_append, hhead]; rfl⟩

namespace Rule

variable {source : String} {q r r' : Rule String} {before u w u' rest : List Char} {e : Ending}

namespace Neighbours

/-- In a text that is read, the block of two rules has yet to be closed after them. -/
theorem rest_ne_nil (h : Neighbours source r r' before u w u' rest)
    (hread : Rule.read source = .ok q) : rest ≠ [] := by
  rintro rfl
  obtain ⟨t, ht, hskip⟩ := h.inBlock
  obtain ⟨_, hu', -⟩ := Reader.written_of_rule h.next
  obtain ⟨c, hc, hhead⟩ := hu'.head_append []
  have hskip' := Reader.skipSeparators_of_letter h.separators hhead hc
  have hend : Reader.Reaches (Reader.skipLayout source.toList) [] :=
    .next (.next ht (hskip ▸ h.first)) (hskip' ▸ h.next)
  have hstuck : Reader.rulesThenBrace [] = .failed [] .ruleOrCloseBrace := by cbv
  rw [Rule.read_of_failed (Reader.rule_failed_of_reaches hend hstuck)] at hread
  cases hread

theorem ne_nil_or_closed (h : Neighbours source r r' before u w u' rest) (hrest : rest ≠ []) :
    w ≠ [] ∨ Written .block r .closed u := by
  cases w with
  | cons c w => exact .inl (List.cons_ne_nil c w)
  | nil =>
      right
      obtain ⟨e, hu, hleft, hgoes⟩ := Reader.written_of_rule h.first
      obtain ⟨_, hu', -⟩ := Reader.written_of_rule h.next
      obtain ⟨c, hc, hhead⟩ := hu'.head_append rest
      cases e with
      | closed => exact hu
      | loose =>
          have hend : isWordChar c = false := hleft c hhead
          rw [Reader.isWordChar_of_mem_ruleLetters hc] at hend
          cases hend
      | last => exact absurd rfl (hgoes (by simp [hrest])).2

end Neighbours

/-- A rule that needs nothing after it is read in a block also if the next rule follows at once. -/
theorem neighbours_of_closed (hr : r.WellFormed .block) (hr' : r'.WellFormed .block)
    (hu : Written .block r .closed u) (hu' : Written .block r' e u') (he : e ≠ .last) :
    let source := String.ofList ("if/x/\x7b".toList ++ (u ++ (u' ++ ['}'])))
    Rule.read source = .ok (.ifMatch "x" [r, r']) ∧
      Neighbours source r r' "if/x/\x7b".toList u [] u' ['}'] := by
  intro source
  have htext : source.toList = "if/x/\x7b".toList ++ (u ++ (u' ++ ['}'])) := String.toList_ofList
  have hbody : WrittenBody [r, r'] (u ++ (u' ++ ['}'])) :=
    .cons (w := []) isSeparators_nil hu trivial (.single hu' he)
  obtain ⟨c, hc, hhead⟩ := hu.head_append (u' ++ ['}'])
  obtain ⟨c', hc', hhead'⟩ := hu'.head_append ['}']
  have hx : IsPattern "x" := ⟨by decide, .alone (by decide) rfl .nil⟩
  constructor
  · refine Rule.read_of_writtenAs ⟨hx, hr, hr', trivial⟩ ⟨[], _, [], .closed, isLayout_nil,
      isLayout_nil, .ifMatch (w := []) isLayout_nil hbody, trivial, ?_⟩
    rw [htext, List.append_nil]
    rfl
  · have hskip := Reader.skipSeparators_of_letter isSeparators_nil hhead hc
    refine ⟨htext, ⟨u ++ (u' ++ ['}']), ?_, hskip⟩, ?_, isSeparators_nil, ?_⟩
    · rw [htext]
      exact .opens (.ifMatch rfl rfl)
    · exact Reader.rule_of_written hu hr trivial (Reader.clear_of_letter hhead' hc')
    · exact Reader.rule_of_written hu' hr' (Ending.before_brace he)
        (Reader.clear_of_writtenBody (.nil (w := []) isSeparators_nil) [])

/-- At top level nothing follows a rule but layout. -/
theorem read_of_touching (hr : r.WellFormed .top) (hu : Written .top r .closed u)
    (hu' : Written .top r' e u') :
    Rule.read (String.ofList (u ++ u')) = .error ⟨none, u.length⟩ := by
  obtain ⟨c, hc, hhead⟩ := hu.head_append u'
  obtain ⟨c', hc', hhead'⟩ := hu'.head
  have hread : Reader.rule .top (u ++ u') = .read r u' :=
    Reader.rule_of_written hu hr trivial (Reader.clear_of_letter hhead' hc')
  have hleft := Reader.skipLayout_of_letter hhead' hc'
  obtain ⟨v, rfl⟩ := List.head?_eq_some_iff.1 hhead'
  simp only [Rule.read, String.toList_ofList, Reader.skipLayout_of_letter hhead hc, hread, hleft]
  rw [List.length_append, Nat.add_sub_cancel]

/-- Between a rule of a block and the next one stands a separator or nothing. Nothing may stand
there just if the first rule ends in a slash, a brace or a digit. At top level no two rules touch.
-/
theorem separated_or_closed (hread : Rule.read source = .ok q)
    (h : Neighbours source r r' before u w u' rest) :
    ((∃ v c, u ++ w = v ++ [c] ∧ isSeparator c = true) ↔ w ≠ []) ∧
      (w = [] → Written .block r .closed u) ∧
      (Written .block r .closed u → EndsClosed u ∧
        (∃ source before rest, Rule.read source = .ok (.ifMatch "x" [r, r']) ∧
          Neighbours source r r' before u [] u' rest) ∧
        Rule.read (String.ofList (u ++ u')) = .error ⟨none, u.length⟩) := by
  have hrest := h.rest_ne_nil hread
  have hclosed : w = [] → Written .block r .closed u := fun hnil =>
    (h.ne_nil_or_closed hrest).resolve_left (absurd hnil)
  refine ⟨⟨?_, fun hw => ?_⟩, hclosed, fun hu => ?_⟩
  · rintro ⟨v, c, heq, hsep⟩ hnil
    obtain ⟨v', c', rfl, hc'⟩ := (hclosed hnil).endsClosed rfl
    rw [hnil, List.append_nil] at heq
    obtain ⟨-, rfl⟩ := List.append_singleton_inj.1 heq
    rw [hc'.not_isSeparator] at hsep
    cases hsep
  · obtain hnil | ⟨w, c, rfl⟩ := w.eq_nil_or_concat
    · exact absurd hnil hw
    · exact ⟨u ++ w, c, by simp, h.separators c (by simp)⟩
  · obtain ⟨_, -, -, hgoes⟩ := Reader.written_of_rule h.first
    obtain ⟨_, hu', -, hgoes'⟩ := Reader.written_of_rule h.next
    obtain ⟨hr, -⟩ := hgoes (by simp [hrest])
    obtain ⟨hr', he'⟩ := hgoes' hrest
    obtain ⟨_, htop, he⟩ := hu.top
    obtain ⟨_, htop', -⟩ := hu'.top
    cases he rfl
    exact ⟨hu.endsClosed rfl, ⟨_, _, _, neighbours_of_closed hr hr' hu hu' he'⟩,
      read_of_touching hr.top htop htop'⟩

/-- A digit closes the first of two rules. -/
theorem separated_or_closed_digit :
    let first : Rule String := .keepLines (.index 1)
    let next : Rule String := .arrange .sort
    Rule.read "if/x/\x7bp:1sort\x7d" = .ok (.ifMatch "x" [first, next]) ∧
      Neighbours "if/x/\x7bp:1sort\x7d" first next "if/x/\x7b".toList "p:1".toList []
        "sort".toList ['}'] ∧
      EndsClosed "p:1".toList ∧ Rule.read "p:1sort" = .error ⟨none, 3⟩ := by
  intro first next
  have hone : IsSignedNumeral 1 ['1'] := ⟨['1'], ⟨0, rfl⟩, .inl ⟨by decide, rfl⟩⟩
  have hfirst : Written .block first .closed "p:1".toList := .keepIndex (.inl rfl) hone
  have hnext : Written .block next .loose "sort".toList := .arrange .sort
  have hone' : first.WellFormed .block := (by decide : (1 : Int).natAbs ≤ maxLineNumber)
  have hnext' : next.WellFormed .block := trivial
  obtain ⟨hread, h⟩ := neighbours_of_closed hone' hnext' hfirst hnext (by decide)
  have hsource : String.ofList ("if/x/\x7b".toList ++ ("p:1".toList ++ ("sort".toList ++ ['}']))) =
      "if/x/\x7bp:1sort\x7d" := by decide
  have htext : String.ofList ("p:1".toList ++ "sort".toList) = "p:1sort" := by decide
  rw [hsource] at hread h
  obtain ⟨-, hclosed, htouch⟩ := separated_or_closed hread h
  obtain ⟨hend, -, htop⟩ := htouch (hclosed rfl)
  rw [htext] at htop
  exact ⟨hread, h, hend, htop⟩

/-- The slash that closes one rule comes right before the next one. -/
theorem neighbours_touch :
    let first : Rule String := .substitute "a" "b" false
    let next : Rule String := .substitute "c" "d" false
    Rule.read "if/x/\x7bs/a/b/s/c/d/\x7d" = .ok (.ifMatch "x" [first, next]) ∧
      Neighbours "if/x/\x7bs/a/b/s/c/d/\x7d" first next "if/x/\x7b".toList "s/a/b/".toList []
        "s/c/d/".toList ['\x7d'] ∧
      "s/a/b/".toList = "s/a/b".toList ++ ['/'] ∧ isSeparator '/' = false ∧
      Rule.read "s/a/b/s/c/d/" = .error ⟨none, 6⟩ := by
  intro first next
  have hfirst : Reader.rule .block "s/a/b/s/c/d/\x7d".toList = .read first "s/c/d/\x7d".toList :=
    Reader.rule_substitute .block false "a/b/s/c/d/\x7d".toList
  have hnext : Reader.rule .block "s/c/d/\x7d".toList = .read next ['\x7d'] :=
    Reader.rule_substitute .block false "c/d/\x7d".toList
  exact ⟨by cbv, ⟨rfl, ⟨_, .opens (.ifMatch rfl rfl), rfl⟩, hfirst, isSeparators_nil, hnext⟩, rfl,
    by decide, by cbv⟩

end Rule

end Linewise
