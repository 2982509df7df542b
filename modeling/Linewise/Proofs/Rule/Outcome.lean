import Linewise.Proofs.Rule.RoundTrip
import Linewise.Proofs.Rule.Traces

/-!
The outcomes of reading a rule, and of reading a block. A rule that was read is well formed and its
text is one that `Written` allows; a text at which reading fails begins like some rule. In a block one
exception is left, a replacement that the end of the input cuts off after a backslash, and no block
that was read to its brace contains it.
-/
namespace Linewise

/-- What reading a rule leaves after it. -/
def Ending.Left : Ending → List Char → Prop
  | closed, _ => True
  | loose, rest => Reader.EndsWord rest
  | last, rest => rest = []

/-- The beginning of a text of some rule, which in a block may be followed by its brace. -/
def Viable (scope : Scope) (u : List Char) : Prop :=
  ∃ x r e, Written scope r e (u ++ x) ∧ r.WellFormed scope ∧ (scope = .block → e ≠ .last)

/-- What reading a rule from `s` can lead to. -/
def RuleOutcome (scope : Scope) (s : List Char) : Reading (Rule String) → Prop
  | .read r rest => ∃ u e, s = u ++ rest ∧ Written scope r e u ∧ e.Left rest ∧
      (r.WellFormed scope ∧ (scope = .block → e ≠ .last) ∨
        scope = .block ∧ rest = [] ∧ Viable .block u)
  | .refused rest => rest = s ∨ s = ['j', 'o', 'i', 'n'] ++ rest
  | .failed rest _ => ∃ u, s = u ++ rest ∧ Viable scope u

namespace Reader

open Reading

theorem RuleText.viable {scope : Scope} {r : Rule String} {u x : List Char}
    (h : RuleText scope r (u ++ x)) : Viable scope u :=
  ⟨x, r, .closed, h.1, h.2, fun _ => by decide⟩

/-- A rule that needs nothing after it leads to nothing but such rules. -/
theorem outcome_of_traces {scope : Scope} {s : List Char} {r : Reading (Rule String)}
    (h : r.Traces (RuleText scope) s) (hd : r.Decides) : RuleOutcome scope s r := by
  cases r with
  | read r rest =>
      obtain ⟨u, hs, hu, hr⟩ := h
      exact ⟨u, .closed, hs, hu, trivial, .inl ⟨hr, fun _ => by decide⟩⟩
  | refused rest => exact hd.elim
  | failed rest e =>
      obtain ⟨u, hs, x, r, hr⟩ := h
      exact ⟨u, hs, RuleText.viable hr⟩

variable {scope : Scope} {s : List Char}

theorem left_of_stopsText {rest : List Char} (h : StopsText scope.endsText rest)
    (hr : rest.head? ≠ some '/') : scope.textEnding.Left rest := by
  cases rest with
  | nil => cases scope <;> simp [Scope.textEnding, Ending.Left, EndsWord]
  | cons c s =>
      have hc : scope.endsText c = true := by
        obtain rfl | hc := h c rfl
        · exact absurd rfl hr
        · exact hc
      cases scope with
      | top => cases hc
      | block =>
          intro d hd
          cases hd
          simp only [Scope.endsText, Bool.or_eq_true, beq_iff_eq] at hc
          exact (loose_head hc).1

theorem isReplacement_of_escapable {t : String} (h : Escapable scope.endsText t.toList) :
    IsReplacement scope t := by
  cases scope with
  | top => exact .inl h
  | block => exact h

theorem textEnding_ne_last (h : scope = .block) : scope.textEnding ≠ .last := by
  rw [h]
  decide

/-- A block replacement that ends in a backslash is cut off. A slash and the brace complete it. -/
theorem viable_substituteDangling {p : String} {t : List Char} (everywhere : Bool)
    (hp : IsPattern p) (ht : Dangling (Escapable Scope.block.endsText) t) :
    Viable .block ([if everywhere then 'g' else 's', '/'] ++
      (escapeSlashes p.toList ++ '/' :: escapeSlashes t)) := by
  obtain ⟨t', ht', rfl⟩ := ht
  have hesc : Escapable Scope.block.endsText (String.ofList (t' ++ ['/'])).toList := by
    rw [String.toList_ofList]
    exact ht'.append (.alone (by decide) rfl .nil)
  refine ⟨['/'], .substitute p (String.ofList (t' ++ ['/'])) everywhere, .loose, ?_,
    ⟨hp, hesc⟩, fun _ => by decide⟩
  have hu : Written .block (.substitute p (String.ofList (t' ++ ['/'])) everywhere) .loose _ :=
    .substituteOpen hesc
  rw [String.toList_ofList] at hu
  simpa [escapeSlashes_cons] using hu

theorem substitute_read_outcome {p : String} (everywhere : Bool) (hp : IsPattern p)
    (s : List Char) :
    RuleOutcome scope
      ([if everywhere then 'g' else 's', '/'] ++ (escapeSlashes p.toList ++ '/' :: s))
      (.read (.substitute p (String.ofList (text scope.endsText s).1) everywhere)
        (dropSlash (text scope.endsText s).2)) := by
  cases ht : text scope.endsText s with
  | mk t rest =>
  obtain ⟨rfl, hends⟩ := eq_escapeSlashes_of_text scope.not_endsText_slash ht
  obtain ⟨t, rfl⟩ : ∃ t' : String, t = t'.toList := ⟨String.ofList t, String.toList_ofList.symm⟩
  simp only [String.ofList_toList]
  obtain ⟨hesc, hstop⟩ | ⟨hdang, rfl⟩ := hends
  · have hwf : IsReplacement scope t := isReplacement_of_escapable hesc
    by_cases hr : rest.head? = some '/'
    · obtain ⟨rest, rfl⟩ := List.head?_eq_some_iff.1 hr
      exact ⟨_, _, by simp [dropSlash], .substituteClosed (p := p) hesc, trivial,
        .inl ⟨⟨hp, hwf⟩, fun _ => by decide⟩⟩
    · rw [dropSlash_of_head? hr]
      exact ⟨_, _, by simp, .substituteOpen (p := p) hesc, left_of_stopsText hstop hr,
        .inl ⟨⟨hp, hwf⟩, textEnding_ne_last⟩⟩
  · refine ⟨_, _, by simp [dropSlash], .substituteDangling (p := p) hdang, rfl, ?_⟩
    cases scope with
    | top => exact .inl ⟨⟨hp, .inr hdang⟩, by simp⟩
    | block => exact .inr ⟨rfl, rfl, viable_substituteDangling everywhere hp hdang⟩

theorem substituteAfter_outcome (scope : Scope) (everywhere : Bool) (s : List Char) :
    RuleOutcome scope ([if everywhere then 'g' else 's', '/'] ++ s)
      (substituteAfter scope everywhere s) := by
  have hp := patternThen_traces .pattern .slash s
  rw [substituteAfter]
  cases hr : patternThen .pattern .slash s with
  | read p rest =>
      rw [hr] at hp
      obtain ⟨u, rfl, hp, rfl⟩ := hp
      rw [List.append_assoc, List.singleton_append]
      exact substitute_read_outcome everywhere hp _
  | refused rest => exact absurd (decides_patternThen .pattern .slash s) (by simp [hr, Decides])
  | failed rest e =>
      rw [hr] at hp
      obtain ⟨u, rfl, x, p, hp, hx⟩ := hp
      have hesc : Escapable scope.endsText "".toList := .nil
      refine ⟨[if everywhere then 'g' else 's', '/'] ++ u, by simp,
        x ++ ['/'], .substitute p "" everywhere, .closed, ?_,
        ⟨hp, isReplacement_of_escapable hesc⟩, fun _ => by decide⟩
      have hu : Written scope (.substitute p "" everywhere) .closed _ := .substituteClosed hesc
      rw [List.append_assoc, ← List.append_assoc u, hx]
      simpa using hu

theorem setLine_read_outcome {n : Int} {d : List Char} (hd : IsSignedNumeral n d)
    (hn : n.natAbs ≤ maxLineNumber) (s : List Char) :
    RuleOutcome scope (['s', ':'] ++ (d ++ ':' :: s))
      (.read (.setLine n (String.ofList (s.takeWhile fun c => !scope.endsText c)))
        (s.dropWhile fun c => !scope.endsText c)) := by
  obtain ⟨w, hs, hw, htext⟩ := exists_run (fun c => !scope.endsText c) s
  rw [← hw]
  obtain ⟨t, rfl⟩ : ∃ t : String, w = t.toList := ⟨String.ofList w, String.toList_ofList.symm⟩
  have hline : IsLineText scope t := fun c hc => by simpa using htext c hc
  rw [String.ofList_toList]
  refine ⟨_, _, ?_, .setLine hd, ?_, .inl ⟨⟨hn, hline⟩, textEnding_ne_last⟩⟩
  · conv => lhs; rw [hs]
    simp
  · have hstop := head?_dropWhile (fun c => !scope.endsText c) s
    refine left_of_stopsText (fun c hc => .inr (by simpa using hstop c hc)) fun hr => ?_
    simpa [scope.not_endsText_slash] using hstop '/' hr

theorem setLineAfter_outcome (scope : Scope) (s : List Char) :
    RuleOutcome scope (['s', ':'] ++ s) (setLineAfter scope s) := by
  have hn := (signed_traces s).orFail .lineNumber
  have hnil : IsLineText scope "" := fun c hc => by cases hc
  -- Whatever is missing, a colon and no text make a line of it.
  have hviable : ∀ {n : Int} {d x : List Char}, NumberText n (d ++ x) →
      Viable scope (['s', ':'] ++ d) := by
    intro n d x ⟨hd, hmax⟩
    refine ⟨x ++ [':'], .setLine n "", scope.textEnding, ?_, ⟨hmax, hnil⟩, textEnding_ne_last⟩
    rw [List.append_assoc, ← List.append_assoc d]
    exact .setLine hd
  rw [setLineAfter]
  cases hr : (signed s).orFail .lineNumber with
  | read n rest =>
      rw [hr] at hn
      obtain ⟨d, rfl, hd, hmax⟩ := hn
      simp only [andThen]
      split
      · exact setLine_read_outcome hd hmax _
      · exact ⟨['s', ':'] ++ d, by simp, hviable (x := []) (by simpa using ⟨hd, hmax⟩)⟩
  | refused rest => exact absurd (decides_orFail (signed s) .lineNumber) (by simp [hr, Decides])
  | failed rest e =>
      rw [hr] at hn
      obtain ⟨u, rfl, x, n, hu⟩ := hn
      exact ⟨['s', ':'] ++ u, by simp, hviable hu⟩

theorem selector_outcome {word : List Char} (hw : IsPrintWord word) (hs : Selects s) :
    RuleOutcome scope (word ++ s) (selector s) := by
  refine outcome_of_traces ?_ (decides_selector hs)
  cases s with
  | nil => simp [Selects] at hs
  | cons c s =>
      rw [← List.singleton_append, ← List.append_assoc]
      obtain hc | hc := hs <;> cases hc
      · refine (((lineSpec_traces s).orFail .lineSpec).map fun spec u h => ?_).prepend
          (word ++ [':']) fun _ _ h => h
        rw [List.append_assoc, List.singleton_append]
        exact ⟨h.2 scope word hw, h.1⟩
      · refine ((patternThen_traces _ _ s).map fun p u hp => ?_).prepend (word ++ ['/'])
          fun _ _ h => h
        obtain ⟨hp, rfl⟩ := hp
        rw [List.append_assoc, List.singleton_append]
        exact ⟨.keepMatching hw, hp⟩

/-- Every block in less text than `n` characters is read or traced to its error. -/
def BlocksTrace (n : Nat) : Prop :=
  ∀ t : List Char, t.length < n → (rulesThenBrace t).Traces BodyText t

theorem BlocksTrace.suffix {t u : List Char} (h : BlocksTrace t.length) (ht : t = u ++ s) :
    BlocksTrace s.length := by
  intro t' ht'
  apply h t'
  rw [ht, List.length_append]
  omega

theorem otherwiseAfter_traces {code : String} {body : List (Rule String)} {u v : List Char}
    (hc : CodeText code u) (hv : BlockText body v) (hb : BlocksTrace s.length) :
    (otherwiseAfter code body s).Traces
      (fun r v' => RuleText scope r (['s', 't', 'a', 't', 'u', 's', ':'] ++ (u ++ (v ++ v')))) s := by
  rw [otherwiseAfter]
  split
  · rename_i t hk
    obtain ⟨w, hs, -, hw⟩ := exists_run isLayout s
    have ht : s = (w ++ ['e', 'l', 's', 'e']) ++ t := by
      rw [List.append_assoc, ← (keyword?_eq_some_iff.1 hk).1]
      exact hs
    have hblock := blockAfter_traces (hb.suffix ht)
    conv => arg 2; rw [ht]
    refine (hblock.map fun otherwise v' hv' => ?_).prepend _ fun _ _ h => h
    rw [List.append_assoc]
    exact ruleText_onStatusElse hc hv hw hv'
  · exact ⟨[], rfl, ruleText_onStatus hc hv⟩

/-- Reading a rule either takes a text of it, or stops where some rule could have gone on. -/
theorem rule_outcome_of_blocksTrace (hb : BlocksTrace s.length) :
    RuleOutcome scope s (rule scope s) := by
  have hstart := start scope s
  have hempty : BlockText [] ['{', '}'] := blockText_nil isLayout_nil
  generalize rule scope s = reading at hstart
  -- An early stop is completed with patterns of one character and with an empty block.
  cases hstart with
  | ifMatch s =>
      refine outcome_of_traces ?_ (decides_ifAfter s)
      refine ((patternThen_traces _ _ s).andThen (fun p u rest hs hp => ?_)
        fun p u hp => ⟨_, _, ruleText_ifMatch hp hempty⟩).prepend _ fun _ _ h => h
      have hrest := (hb.suffix rfl).suffix hs
      exact (blockAfter_traces hrest).map fun body v hv => ruleText_ifMatch hp hv
  | between s =>
      refine outcome_of_traces ?_ (decides_betweenAfter s)
      have hpattern : PatternText "0" ['0', '/'] := ⟨⟨by decide, .alone (by decide) rfl .nil⟩, rfl⟩
      refine ((patternThen_traces _ _ s).andThen (fun a u rest hs ha => ?_)
        fun a u ha => ⟨_, _, ruleText_between ha hpattern hempty⟩).prepend _ fun _ _ h => h
      refine (patternThen_traces _ _ rest).andThen (fun b u' rest' hs' hb' => ?_)
        fun b u' hb' => ⟨_, _, ruleText_between ha hb' hempty⟩
      have hrest := ((hb.suffix rfl).suffix hs).suffix hs'
      exact (blockAfter_traces hrest).map fun body v hv => ruleText_between ha hb' hv
  | onStatus s =>
      refine outcome_of_traces ?_ (decides_statusAfter s)
      refine ((statusCode_traces s).andThen (fun code u rest hs hc => ?_)
        fun code u hc => ⟨_, _, ruleText_onStatus hc hempty⟩).prepend _ fun _ _ h => h
      have hrest := (hb.suffix rfl).suffix hs
      refine (blockAfter_traces hrest).andThen (fun body v rest' hs' hv => ?_)
        fun body v hv => ⟨_, _, ruleText_onStatus hc hv⟩
      exact otherwiseAfter_traces hc hv (hrest.suffix hs')
  | select hw hs => exact selector_outcome hw hs
  | keepAll _ hs =>
      exact ⟨_, _, rfl, .keepAll, hs, .inl ⟨trivial, fun _ => by decide⟩⟩
  | substitute everywhere s => exact substituteAfter_outcome scope everywhere s
  | setLine s => exact setLineAfter_outcome scope s
  | arrange how hs => exact ⟨_, _, rfl, .arrange how, hs, .inl ⟨trivial, fun _ => by decide⟩⟩
  | joined _ => exact .inr rfl
  | other => exact .inl rfl

theorem isWordChar_of_mem_ruleLetters {c : Char} (h : c ∈ ruleLetters) :
    isWordChar c = true := by
  simp only [ruleLetters, List.mem_cons, List.not_mem_nil, or_false] at h
  obtain rfl | rfl | rfl | rfl | rfl | rfl | rfl := h <;> decide

/-- A rule in a block is followed by what may follow it, since the block goes on with a separator,
a brace, or the letter of another rule. -/
theorem before_of_left {e : Ending} {rs : List (Rule String)} {v rest : List Char}
    (hl : e.Left rest) (he : e ≠ .last) (hv : WrittenBody rs v) (hh : v.head? = rest.head?) :
    e.Before v := by
  cases e with
  | closed => trivial
  | last => exact absurd rfl he
  | loose =>
      intro c hc
      have hword : isWordChar c = false := hl c (hh ▸ hc)
      obtain ⟨w, s, d, hw, rfl, hd, hd'⟩ := hv.head
      cases w with
      | nil =>
          rw [List.nil_append, hd] at hc
          cases hc
          obtain rfl | hd' := hd'
          · exact .inr rfl
          · rw [isWordChar_of_mem_ruleLetters hd'] at hword
            cases hword
      | cons x w =>
          cases hc
          exact .inl (hw c List.mem_cons_self)

/-- The brace closes a block after the beginning of a rule, once the rule is completed. -/
theorem exists_bodyText {w u : List Char} (hw : IsSeparators w) (h : Viable .block u) :
    ∃ x rs, BodyText rs (w ++ u ++ x) := by
  obtain ⟨x, r, e, hu, hr, he⟩ := h
  refine ⟨x ++ ['}'], [r], ?_, hr, trivial⟩
  have hnil : WrittenBody [] ['}'] := .nil isSeparators_nil
  have := WrittenBody.cons hw hu (Ending.before_brace (he rfl)) hnil
  simpa using this

theorem bodyText_cons {r : Rule String} {e : Ending} {w u rest : List Char}
    {reading : Reading (List (Rule String))} (hw : IsSeparators w) (hu : Written .block r e u)
    (hr : r.WellFormed .block) (he : e ≠ .last) (hl : e.Left rest)
    (h : reading.Traces BodyText rest) :
    (reading.map (r :: ·)).Traces BodyText (w ++ (u ++ rest)) := by
  have hcons : ∀ {rs v}, BodyText rs v → e.Before v → BodyText (r :: rs) (w ++ (u ++ v)) :=
    fun hv hbefore => ⟨.cons hw hu hbefore hv.1, hr, hv.2⟩
  cases reading with
  | read rs rest' =>
      obtain ⟨v, rfl, hv⟩ := h
      refine ⟨w ++ (u ++ v), by simp, hcons hv (before_of_left hl he hv.1 ?_)⟩
      obtain ⟨w', s, d, -, rfl, hd, -⟩ := hv.1.head
      simp [hd]
  | refused rest' | failed rest' e' =>
      obtain ⟨v, rfl, x, rs, hv⟩ := h
      refine ⟨w ++ (u ++ v), by simp, ?_⟩
      cases v with
      | nil =>
          have hnil : BodyText [] ['}'] := bodyText_nil isSeparators_nil
          exact ⟨['}'], r :: [], by simpa using hcons hnil (Ending.before_brace he)⟩
      | cons c v =>
          exact ⟨x, r :: rs, by simpa using hcons hv (before_of_left hl he hv.1 rfl)⟩

theorem traces_of_viable {w u : List Char} {reading : Reading (List (Rule String))}
    (hw : IsSeparators w) (hu : Viable .block u) (h : reading.Traces BodyText [])
    (f : List (Rule String) → List (Rule String)) :
    (reading.map f).Traces BodyText (w ++ (u ++ [])) := by
  cases reading with
  | read rs rest =>
      obtain ⟨v, hv, hbody⟩ := h
      obtain ⟨w', s, d, -, rfl, hd, -⟩ := hbody.1.head
      simp only [List.nil_eq, List.append_eq_nil_iff] at hv
      rw [hv.1.2] at hd
      cases hd
  | refused rest | failed rest e =>
      obtain ⟨v, hv, -⟩ := h
      simp only [List.nil_eq, List.append_eq_nil_iff] at hv
      obtain ⟨-, rfl⟩ := hv
      exact ⟨w ++ u, by simp, exists_bodyText hw hu⟩

/-- A block that was read is well formed, and one that was not can be completed from where reading
stopped. -/
theorem rulesThenBrace_traces (s : List Char) : (rulesThenBrace s).Traces BodyText s := by
  induction hn : s.length using Nat.strong_induction_on generalizing s with
  | _ n ih =>
  subst hn
  obtain ⟨w, hs, -, hw⟩ := exists_run isSeparator s
  change s = w ++ skipSeparators s at hs
  have hb : BlocksTrace s.length := fun t ht => ih t.length ht t rfl
  have ho : RuleOutcome .block _ _ := rule_outcome_of_blocksTrace (hb.suffix hs)
  rw [rulesThenBrace]
  generalize skipSeparators s = t at hs ho ⊢
  cases hr : rule .block t with
  | read r rest =>
      rw [hr] at ho
      obtain ⟨u, e, rfl, hu, hl, hcase⟩ := ho
      have hlt : rest.length < s.length := by
        obtain ⟨c, -, hc⟩ := hu.head
        obtain ⟨u, rfl⟩ := List.head?_eq_some_iff.1 hc
        simp only [hs, List.length_append, List.length_cons]
        omega
      simp only [if_pos hlt]
      conv => arg 2; rw [hs]
      obtain ⟨hwf, he⟩ | ⟨-, rfl, hviable⟩ := hcase
      · exact bodyText_cons hw hu hwf (he rfl) hl (hb rest hlt)
      · -- The input ends inside a replacement, so the block is not closed either.
        exact traces_of_viable hw hviable (hb [] hlt) _
  | refused rest =>
      simp only
      split
      · rename_i rest
        exact ⟨w ++ ['}'], by simpa using hs, bodyText_nil hw⟩
      · exact ⟨w, hs, ['}'], [], bodyText_nil hw⟩
  | failed rest e =>
      rw [hr] at ho
      obtain ⟨u, rfl, hviable⟩ := ho
      exact ⟨w ++ u, by simpa using hs, exists_bodyText hw hviable⟩

theorem rule_outcome (scope : Scope) (s : List Char) : RuleOutcome scope s (rule scope s) :=
  rule_outcome_of_blocksTrace fun t _ => rulesThenBrace_traces t

end Reader

/-- The beginning of a text from which a rule is read. -/
def IsRulePrefix (pre : List Char) : Prop :=
  ∃ x r, Rule.read (String.ofList (pre ++ x)) = .ok r

/-- What reading a whole text can lead to. -/
def ReadOutcome (source : String) : Except ReadError (Rule String) → Prop
  | .ok r => r.WellFormed .top ∧ r.WrittenAs source
  | .error e => ∃ pre post, source.toList = pre ++ post ∧ pre.length = e.column ∧ IsRulePrefix pre

theorem isRulePrefix_of_viable {w u : List Char} (hw : IsLayout w) (h : Viable .top u) :
    IsRulePrefix (w ++ u) := by
  obtain ⟨x, r, e, hu, hr, -⟩ := h
  exact ⟨x, r, Rule.read_of_writtenAs hr
    ⟨w, u ++ x, [], e, hw, isLayout_nil, hu, Ending.before_nil, by simp⟩⟩

theorem isRulePrefix_of_isLayout {w : List Char} (hw : IsLayout w) : IsRulePrefix w := by
  have h : Viable .top [] :=
    ⟨Arrangement.sort.word, .arrange .sort, .loose, .arrange .sort, trivial, fun _ => by decide⟩
  simpa using isRulePrefix_of_viable hw h

theorem isRulePrefix_join {w : List Char} (hw : IsLayout w) :
    IsRulePrefix (w ++ ['j', 'o', 'i', 'n']) := by
  have h : Viable .top ['j', 'o', 'i', 'n'] :=
    ⟨[], .arrange .join, .loose, .arrange .join, trivial, fun _ => by decide⟩
  exact isRulePrefix_of_viable hw h

theorem readOutcome_error {source : String} {pre rest : List Char} {what : Option Expected}
    (hs : source.toList = pre ++ rest) (h : IsRulePrefix pre) :
    ReadOutcome source (.error ⟨what, source.toList.length - rest.length⟩) := by
  refine ⟨pre, rest, hs, ?_, h⟩
  rw [hs, List.length_append, Nat.add_sub_cancel]

theorem Rule.read_outcome (source : String) : ReadOutcome source (Rule.read source) := by
  obtain ⟨w, hs, -, hw⟩ := exists_run isLayout source.toList
  change _ = w ++ Reader.skipLayout source.toList at hs
  have ho := Reader.rule_outcome .top (Reader.skipLayout source.toList)
  simp only [Rule.read]
  cases hr : Reader.rule .top (Reader.skipLayout source.toList) with
  | read r rest =>
      rw [hr] at ho
      obtain ⟨u, e, hu, hwritten, hleft, ⟨hwf, -⟩ | ⟨hscope, -⟩⟩ := ho
      · obtain ⟨w', hrest, -, hw'⟩ := exists_run isLayout rest
        change _ = w' ++ Reader.skipLayout rest at hrest
        have hbefore : e.Before w' := by
          refine Ending.before_separators (IsLayout.isSeparators hw') fun he => ?_
          rw [he] at hleft
          exact (List.append_eq_nil_iff.1 (hrest.symm.trans hleft)).1
        have hsource : source.toList = (w ++ (u ++ w')) ++ Reader.skipLayout rest := by
          rw [hs, hu, hrest]
          simp [← hrest]
        simp only
        split
        · rename_i hend
          rw [hend, List.append_nil] at hsource
          exact ⟨hwf, w, u, w', e, hw, hw', hwritten, hbefore, hsource⟩
        · exact readOutcome_error hsource ⟨[], r, Rule.read_of_writtenAs hwf
            ⟨w, u, w', e, hw, hw', hwritten, hbefore, by simp⟩⟩
      · cases hscope
  | refused rest =>
      rw [hr] at ho
      obtain hrest | hrest := ho
      · rw [hrest]
        exact readOutcome_error hs (isRulePrefix_of_isLayout hw)
      · rw [hrest, ← List.append_assoc] at hs
        exact readOutcome_error hs (isRulePrefix_join hw)
  | failed rest what =>
      rw [hr] at ho
      obtain ⟨u, hu, hviable⟩ := ho
      rw [hu, ← List.append_assoc] at hs
      exact readOutcome_error hs (isRulePrefix_of_viable hw hviable)

end Linewise
