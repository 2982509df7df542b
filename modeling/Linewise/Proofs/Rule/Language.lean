import Linewise.Proofs.Rule.Outcome

/-!
The language of rules. Every well-formed rule has a text, each of its texts is read as that rule, and
whatever is read as a rule is well formed and is one of its texts. So reading accepts the texts that
`Written` allows, no more and no fewer, and no two rules share a text.
-/
namespace Linewise

theorem exists_isSignedNumeral (n : Int) : ∃ d, IsSignedNumeral n d := by
  obtain h | h := Int.le_total 0 n
  · exact ⟨_, _, isNumeral_toDigits _, .inl ⟨h, rfl⟩⟩
  · exact ⟨_, _, isNumeral_toDigits _, .inr ⟨h, rfl⟩⟩

theorem WrittenBody.separate {rs : List (Rule String)} {w v : List Char} (hw : IsSeparators w)
    (h : WrittenBody rs v) : WrittenBody rs (w ++ v) := by
  cases h with
  | nil hw' =>
      rw [← List.append_assoc]
      exact .nil (hw.append hw')
  | cons hw' hu he hv =>
      rw [← List.append_assoc]
      exact .cons (hw.append hw') hu he hv

/-- One more rule at the front of a block, which a semicolon keeps apart. -/
theorem WrittenBody.push {r : Rule String} {rs : List (Rule String)} {e : Ending} {u v : List Char}
    (hu : Written .block r e u) (he : e ≠ .last) (hv : WrittenBody rs v) :
    WrittenBody (r :: rs) (u ++ ';' :: v) := by
  have hv' : WrittenBody rs ([';'] ++ v) := hv.separate (by decide)
  exact .cons (w := []) isSeparators_nil hu (Ending.before_semicolon he v) hv'

mutual

theorem Rule.exists_written {scope : Scope} : (r : Rule String) → r.WellFormed scope →
    ∃ e u, Written scope r e u ∧ (scope = .block → e ≠ .last)
  | .substitute p t everywhere, h => by
      cases scope with
      | block => exact ⟨_, _, .substituteClosed h.2, fun _ => by decide⟩
      | top =>
          obtain ht | ht := h.2
          · exact ⟨_, _, .substituteClosed ht, fun h => by cases h⟩
          · exact ⟨_, _, .substituteDangling ht, fun h => by cases h⟩
  | .setLine n t, _ => by
      obtain ⟨d, hd⟩ := exists_isSignedNumeral n
      exact ⟨_, _, .setLine hd, Reader.textEnding_ne_last⟩
  | .keepMatching p, _ => ⟨_, _, .keepMatching (.inl rfl), fun _ => by decide⟩
  | .keepLines (.index n), _ => by
      obtain ⟨d, hd⟩ := exists_isSignedNumeral n
      exact ⟨_, _, .keepIndex (.inl rfl) hd, fun _ => by decide⟩
  | .keepLines (.range a b), h => by
      obtain ⟨a, rfl⟩ := Int.eq_ofNat_of_zero_le h.1
      obtain ⟨b, rfl⟩ := Int.eq_ofNat_of_zero_le h.2.2.1
      exact ⟨_, _, .keepRange (.inl rfl) (isNumeral_toDigits a) (isNumeral_toDigits b),
        fun _ => by decide⟩
  | .keepAll, _ => ⟨_, _, .keepAll, fun _ => by decide⟩
  | .arrange how, _ => ⟨_, _, .arrange how, fun _ => by decide⟩
  | .ifMatch p body, h => by
      obtain ⟨v, hv⟩ := Rule.exists_writtenBody body h.2
      exact ⟨_, _, .ifMatch isLayout_nil hv, fun _ => by decide⟩
  | .between a b body, h => by
      obtain ⟨v, hv⟩ := Rule.exists_writtenBody body h.2.2
      exact ⟨_, _, .between isLayout_nil hv, fun _ => by decide⟩
  | .onStatus code body otherwise, h => by
      obtain ⟨v, hv⟩ := Rule.exists_writtenBody body h.2.1
      obtain ⟨v', hv'⟩ := Rule.exists_writtenBody otherwise h.2.2
      have hw := isLayout_nil
      exact ⟨_, _, .onStatusElse hw hv hw hw hv', fun _ => by decide⟩

theorem Rule.exists_writtenBody : (rs : List (Rule String)) → Rule.AllWellFormed rs →
    ∃ v, WrittenBody rs v
  | [], _ => ⟨_, .nil isSeparators_nil⟩
  | r :: rs, h => by
      obtain ⟨e, u, hu, he⟩ := Rule.exists_written r h.1
      obtain ⟨v, hv⟩ := Rule.exists_writtenBody rs h.2
      exact ⟨_, hv.push hu (he rfl)⟩

end

theorem Rule.exists_writtenAs {r : Rule String} (h : r.WellFormed .top) :
    ∃ source, r.WrittenAs source := by
  obtain ⟨e, u, hu, -⟩ := Rule.exists_written r h
  exact ⟨String.ofList u, [], u, [], e, isLayout_nil, isLayout_nil, hu, Ending.before_nil,
    by simp⟩

/-- Every text that is read is one of them. -/
theorem Rule.of_read {r : Rule String} {source : String} (h : Rule.read source = .ok r) :
    r.WellFormed .top ∧ r.WrittenAs source := by
  have ho := Rule.read_outcome source
  rw [h] at ho
  exact ho

/-- The texts from which a rule is read are those in which it can be written, and there is one. -/
theorem Rule.read_iff_writtenAs {r : Rule String} (hr : r.WellFormed .top) :
    (∃ source, r.WrittenAs source) ∧
      ∀ source, Rule.read source = .ok r ↔ r.WrittenAs source :=
  ⟨Rule.exists_writtenAs hr, fun _ => ⟨fun h => (Rule.of_read h).2, Rule.read_of_writtenAs hr⟩⟩

theorem Rule.read_nested :
    Rule.read " if/a\\/b/\n\x7bs/x/\\;y; p:-007\x7d" =
      .ok (.ifMatch "a/b" [.substitute "x" "\\;y" false, .keepLines (.index (-7))]) := by
  have hab : IsPattern "a/b" :=
    ⟨by decide, .alone (by decide) rfl (.alone (by decide) rfl (.alone (by decide) rfl .nil))⟩
  have hx : IsPattern "x" := ⟨by decide, .alone (by decide) rfl .nil⟩
  have hy : IsReplacement .block "\\;y" := .pair (by decide) (.alone (by decide) rfl .nil)
  have hn : (-7 : Int).natAbs ≤ maxLineNumber := by decide
  have hr : (Rule.ifMatch "a/b"
      [.substitute "x" "\\;y" false, .keepLines (.index (-7))]).WellFormed .top :=
    ⟨hab, ⟨hx, hy⟩, hn, trivial⟩
  have hseven : IsSignedNumeral (-7) ['-', '0', '0', '7'] := ⟨_, ⟨2, rfl⟩, .inr ⟨by decide, rfl⟩⟩
  have hkeep : WrittenBody [.keepLines (.index (-7))] "; p:-007\x7d".toList :=
    .cons (w := [';', ' ']) (by decide) (.keepIndex (.inl rfl) hseven) trivial
      (.nil (w := []) (by decide))
  refine ((Rule.read_iff_writtenAs hr).2 _).2 ⟨[' '], _, [], .closed, by decide, by decide,
    .ifMatch (w := ['\n']) (by decide) (.cons (w := []) (by decide) (.substituteOpen hy)
      (fun c hc => ?_) hkeep), trivial, by decide⟩
  cases hc
  exact .inl rfl

/-- Whatever is read is well formed, at every depth. -/
theorem Rule.wellFormed_of_read {r : Rule String} {source : String}
    (h : Rule.read source = .ok r) : r.WellFormed .top :=
  (Rule.of_read h).1

theorem Rule.wellFormed_nested :
    let r : Rule String :=
      .ifMatch "a/b" [.ifMatch "x" [.substitute "y" "\\;z" true, .substitute "q" "\\r" false]]
    Rule.read "if/a\\/b/ \x7bif/x/\x7bg/y/\\;z; s/q/\\r\x7d\x7d" = .ok r ∧ r.WellFormed .top := by
  intro r
  have h : Rule.read "if/a\\/b/ \x7bif/x/\x7bg/y/\\;z; s/q/\\r\x7d\x7d" = .ok r := by cbv
  exact ⟨h, Rule.wellFormed_of_read h⟩

end Linewise
