import Linewise.Proofs.Rule.Written

/-!
What a reader has taken from a text, whether it succeeds or not. A reader that succeeds has taken a
text of its value. A reader that stops has taken the beginning of a text of some value, so what was
read before an error can always be completed. Both are kept by running one reader after another, which
reduces them to the pieces of a rule.
-/
namespace Linewise

namespace Reading

variable {α β : Type} {P : α → List Char → Prop} {Q : β → List Char → Prop} {s : List Char}

/-- Where `P` relates values to their texts: what was taken from `s` is a text of the value, or can be
completed to a text of some value. -/
def Traces (P : α → List Char → Prop) (s : List Char) : Reading α → Prop
  | read a rest => ∃ u, s = u ++ rest ∧ P a u
  | refused rest | failed rest _ => ∃ u, s = u ++ rest ∧ ∃ x a, P a (u ++ x)

theorem Traces.map {r : Reading α} {f : α → β} (h : r.Traces P s)
    (hf : ∀ a u, P a u → Q (f a) u) : (r.map f).Traces Q s := by
  cases r with
  | read a rest =>
      obtain ⟨u, hs, ha⟩ := h
      exact ⟨u, hs, hf a u ha⟩
  | refused rest | failed rest e =>
      obtain ⟨u, hs, x, a, ha⟩ := h
      exact ⟨u, hs, x, f a, hf a _ ha⟩

theorem Traces.orFail {r : Reading α} (h : r.Traces P s) (e : Expected) :
    (r.orFail e).Traces P s := by
  cases r <;> exact h

theorem Traces.prepend {r : Reading α} (w : List Char) {P' : α → List Char → Prop}
    (h : r.Traces P s) (hw : ∀ a u, P a u → P' a (w ++ u)) : r.Traces P' (w ++ s) := by
  cases r with
  | read a rest =>
      obtain ⟨u, rfl, ha⟩ := h
      exact ⟨w ++ u, by simp, hw a u ha⟩
  | refused rest | failed rest e =>
      obtain ⟨u, rfl, x, a, ha⟩ := h
      exact ⟨w ++ u, by simp, x, a, by simpa using hw a _ ha⟩

/-- After each value some text has to be possible, with which an early stop is completed. -/
theorem Traces.andThen {r : Reading α} {f : α → List Char → Reading β} (h : r.Traces P s)
    (hf : ∀ a u rest, s = u ++ rest → P a u → (f a rest).Traces (fun b v => Q b (u ++ v)) rest)
    (hq : ∀ a u, P a u → ∃ b v, Q b (u ++ v)) : (r.andThen f).Traces Q s := by
  cases r with
  | read a rest =>
      obtain ⟨u, rfl, ha⟩ := h
      exact (hf a u rest rfl ha).prepend u fun b v hb => hb
  | refused rest | failed rest e =>
      obtain ⟨u, hs, x, a, ha⟩ := h
      obtain ⟨b, v, hb⟩ := hq a _ ha
      exact ⟨u, hs, x ++ v, b, by simpa using hb⟩

end Reading

theorem isSignedNumeral_zero : IsSignedNumeral 0 ['0'] :=
  ⟨['0'], isNumeral_toDigits 0, .inl ⟨Int.le_refl _, rfl⟩⟩

theorem isPattern_ofList {t : List Char} (hne : t ≠ []) (ht : Escapable (fun _ => false) t) :
    IsPattern (String.ofList t) := by
  refine ⟨?_, by rwa [String.toList_ofList]⟩
  rw [ne_eq, ← String.toList_eq_nil_iff, String.toList_ofList]
  exact hne

namespace Reader

open Reading

/-- A pattern, with the slash that ends it. -/
def PatternText (p : String) (u : List Char) : Prop :=
  IsPattern p ∧ u = escapeSlashes p.toList ++ ['/']

theorem patternText_ofList {t : List Char} (hne : t ≠ [])
    (ht : Escapable (fun _ => false) t) :
    PatternText (String.ofList t) (escapeSlashes t ++ ['/']) :=
  ⟨isPattern_ofList hne ht, by rw [String.toList_ofList]⟩

/-- Whatever was read of a pattern before the input ended can still be closed. -/
theorem exists_patternText {t : List Char} (hne : t ≠ [])
    (h : TextEnds (fun _ => false) t []) :
    ∃ x p, PatternText p (escapeSlashes t ++ x) := by
  obtain ⟨ht, -⟩ | ⟨⟨t', ht', rfl⟩, -⟩ := h
  · exact ⟨['/'], _, patternText_ofList hne ht⟩
  · -- The lone backslash escapes the first slash that is added.
    have ht : Escapable (fun _ => false) (t' ++ ['/']) :=
      ht'.append (.alone (by decide) rfl .nil)
    refine ⟨['/', '/'], String.ofList (t' ++ ['/']), ?_⟩
    simpa [escapeSlashes_append, escapeSlashes_cons] using patternText_ofList (by simp) ht

theorem patternThen_traces (missing unclosed : Expected) (s : List Char) :
    (patternThen missing unclosed s).Traces PatternText s := by
  cases ht : text (fun _ => false) s with
  | mk t rest =>
      obtain ⟨rfl, hends⟩ := eq_escapeSlashes_of_text rfl ht
      rw [patternThen]
      rw [ht]
      cases t with
      | nil =>
          have ha : Escapable (fun _ => false) ['a'] := .alone (by decide) rfl .nil
          exact ⟨[], rfl, _, _, patternText_ofList (by simp) ha⟩
      | cons c t =>
          have hne : c :: t ≠ [] := by simp
          cases rest with
          | nil =>
              exact ⟨_, rfl, exists_patternText hne hends⟩
          | cons d rest =>
              obtain ⟨hesc, hstop⟩ | ⟨-, hnil⟩ := hends
              · have hd : d = '/' := by simpa using hstop d rfl
                subst hd
                exact ⟨_, by simp, patternText_ofList hne hesc⟩
              · cases hnil

def CodeText (code : String) (u : List Char) : Prop := IsStatusCode code ∧ u = code.toList

theorem statusCode_traces (s : List Char) : (statusCode s).Traces CodeText s := by
  obtain ⟨w, hs, hw, hcode⟩ := exists_run isCodeChar s
  rw [statusCode]
  rw [← hw]
  cases w with
  | nil =>
      exact ⟨[], rfl, ['0'], "0", by decide, rfl⟩
  | cons c w =>
      refine ⟨c :: w, hs, ⟨?_, ?_⟩, by rw [String.toList_ofList]⟩
      · rw [ne_eq, ← String.toList_eq_nil_iff, String.toList_ofList]
        simp
      · intro x hx
        rw [String.toList_ofList] at hx
        simpa [isCodeChar] using hcode x hx

def NumberText (n : Int) (u : List Char) : Prop := IsSignedNumeral n u ∧ n.natAbs ≤ maxLineNumber

theorem signed_traces (s : List Char) : (signed s).Traces NumberText s := by
  have hzero : NumberText 0 ['0'] := ⟨isSignedNumeral_zero, Nat.zero_le _⟩
  unfold signed
  split
  · rename_i s
    split
    · rename_i n rest h
      obtain ⟨⟨d, rfl, hd⟩, hn, -⟩ := isNumeral_of_numeral? h
      exact ⟨'-' :: d, rfl, ⟨d, by simpa using hd, .inr ⟨by omega, rfl⟩⟩, by simpa using hn⟩
    · refine ⟨['-'], rfl, ['0'], 0, ⟨['0'], isNumeral_toDigits 0, .inr ⟨by omega, rfl⟩⟩, ?_⟩
      exact Nat.zero_le _
  · split
    · rename_i n rest h
      obtain ⟨⟨d, rfl, hd⟩, hn, -⟩ := isNumeral_of_numeral? h
      exact ⟨d, rfl, ⟨d, by simpa using hd, .inl ⟨by omega, rfl⟩⟩, by simpa using hn⟩
    · exact ⟨[], rfl, ['0'], 0, hzero⟩

/-- A choice of lines by position. -/
def SpecText (spec : LineSpec) (u : List Char) : Prop :=
  spec.WellFormed ∧ ∀ (scope : Scope) (word : List Char), IsPrintWord word →
    Written scope (.keepLines spec) .closed (word ++ ':' :: u)

theorem lineSpec_traces (s : List Char) : (lineSpec s).Traces SpecText s := by
  rw [lineSpec]
  split
  · rename_i spec rest h
    unfold range? at h
    split at h
    · rename_i a t ha
      obtain ⟨⟨b, rest'⟩, hb, heq⟩ := Option.map_eq_some_iff.1 h
      cases heq
      obtain ⟨⟨d, rfl, hd⟩, hd', -⟩ := isNumeral_of_numeral? ha
      obtain ⟨⟨e, rfl, he⟩, he', -⟩ := isNumeral_of_numeral? hb
      have hwf : (LineSpec.range a b).WellFormed :=
        ⟨by omega, by exact_mod_cast hd', by omega, by exact_mod_cast he'⟩
      exact ⟨d ++ '-' :: e, by simp, hwf, fun _ _ hw => .keepRange hw hd he⟩
    · cases h
  · refine (signed_traces s).map fun n u hn => ⟨hn.2, fun _ _ hw => .keepIndex hw hn.1⟩

def BodyText (rs : List (Rule String)) (v : List Char) : Prop :=
  WrittenBody rs v ∧ Rule.AllWellFormed rs

/-- A block in its braces, after some layout. -/
def BlockText (rs : List (Rule String)) (u : List Char) : Prop :=
  ∃ w v, IsLayout w ∧ u = w ++ '{' :: v ∧ BodyText rs v

theorem bodyText_nil {w : List Char} (hw : IsSeparators w) : BodyText [] (w ++ ['}']) :=
  ⟨.nil hw, trivial⟩

theorem blockText_nil {w : List Char} (hw : IsLayout w) : BlockText [] (w ++ ['{', '}']) :=
  ⟨w, ['}'], hw, rfl, bodyText_nil isSeparators_nil⟩

/-- A rule whose text needs nothing after it. -/
def RuleText (scope : Scope) (r : Rule String) (u : List Char) : Prop :=
  Written scope r .closed u ∧ r.WellFormed scope

theorem blockAfter_traces {s : List Char}
    (hb : ∀ t, t.length < s.length → (rulesThenBrace t).Traces BodyText t) :
    (blockAfter s).Traces BlockText s := by
  obtain ⟨w, hs, -, hw⟩ := exists_run isLayout s
  obtain ⟨t, ht, hbt⟩ | hbt := block_cases (skipLayout s)
  · have hlt := length_of_skipLayout_brace ht
    have hpre : s = (w ++ ['{']) ++ t := by
      rw [List.append_assoc, List.singleton_append, ← ht]
      exact hs
    rw [blockAfter, hbt]
    refine Traces.orFail ?_ _
    conv => arg 2; rw [hpre]
    exact (hb t hlt).prepend (w ++ ['{']) fun rs v hv => ⟨w, v, hw, by simp, hv⟩
  · rw [blockAfter, hbt]
    exact ⟨w, hs, ['{', '}'], [], blockText_nil hw⟩

section

variable {scope : Scope} {p a b code : String} {body otherwise : List (Rule String)}
  {u u' v v' : List Char}

theorem ruleText_ifMatch (hp : PatternText p u) (hv : BlockText body v) :
    RuleText scope (.ifMatch p body) (['i', 'f', '/'] ++ (u ++ v)) := by
  obtain ⟨hp, rfl⟩ := hp
  obtain ⟨w, v, hw, rfl, hv, hbody⟩ := hv
  refine ⟨?_, hp, hbody⟩
  rw [List.append_assoc, List.singleton_append]
  exact .ifMatch hw hv

theorem ruleText_between (ha : PatternText a u) (hb : PatternText b u')
    (hv : BlockText body v) :
    RuleText scope (.between a b body)
      (['b', 'e', 't', 'w', 'e', 'e', 'n', '/'] ++ (u ++ (u' ++ v))) := by
  obtain ⟨ha, rfl⟩ := ha
  obtain ⟨hb, rfl⟩ := hb
  obtain ⟨w, v, hw, rfl, hv, hbody⟩ := hv
  refine ⟨?_, ha, hb, hbody⟩
  rw [List.append_assoc, List.append_assoc, List.singleton_append, List.singleton_append]
  exact .between hw hv

theorem ruleText_onStatus (hc : CodeText code u) (hv : BlockText body v) :
    RuleText scope (.onStatus code body [])
      (['s', 't', 'a', 't', 'u', 's', ':'] ++ (u ++ (v ++ []))) := by
  obtain ⟨hc, rfl⟩ := hc
  obtain ⟨w, v, hw, rfl, hv, hbody⟩ := hv
  rw [List.append_nil]
  exact ⟨.onStatus hw hv, hc, hbody, trivial⟩

theorem ruleText_onStatusElse {w : List Char} (hc : CodeText code u) (hv : BlockText body v)
    (hw : IsLayout w) (hv' : BlockText otherwise v') :
    RuleText scope (.onStatus code body otherwise)
      (['s', 't', 'a', 't', 'u', 's', ':'] ++
        (u ++ (v ++ (w ++ (['e', 'l', 's', 'e'] ++ v'))))) := by
  obtain ⟨hc, rfl⟩ := hc
  obtain ⟨w₀, v, hw₀, rfl, hv, hbody⟩ := hv
  obtain ⟨w₂, v', hw₂, rfl, hv', hother⟩ := hv'
  refine ⟨?_, hc, hbody, hother⟩
  rw [List.append_assoc w₀, List.cons_append]
  exact .onStatusElse hw₀ hv hw hw₂ hv'

end

end Reader
end Linewise
