import Linewise.Proofs.Rule.Written

/-!
Reading undoes writing. The pieces of a rule come first: patterns, numbers, codes and blocks are read
back from their texts whatever follows them. What follows a rule matters only where the rule could go
on, with a number or with an `else`; in a block the next rule or the closing brace never lets it.
-/
namespace Linewise

theorem Scope.not_endsText_backslash (scope : Scope) : scope.endsText '\\' = false := by
  cases scope <;> rfl

theorem Scope.not_endsText_slash (scope : Scope) : scope.endsText '/' = false := by
  cases scope <;> rfl

theorem not_isWordChar_of_isSeparator {c : Char} (h : isSeparator c = true) :
    isWordChar c = false := by
  simp only [isSeparator, Bool.or_eq_true, beq_iff_eq] at h
  obtain h | rfl := h
  · exact not_isWordChar_of_isWhite h
  · decide

theorem isSeparator_of_isLayout {c : Char} (h : isLayout c = true) : isSeparator c = true := by
  simp [isSeparator, isWhite_of_isLayout h]

theorem IsLayout.isSeparators {w : List Char} (h : IsLayout w) : IsSeparators w :=
  fun c hc => isSeparator_of_isLayout (h c hc)

/-- What may follow loose text starts no word, no choice of lines and no number. -/
theorem loose_head {c : Char} (h : isSeparator c = true ∨ c = '}') :
    isWordChar c = false ∧ c ≠ ':' ∧ c ≠ '/' := by
  refine ⟨?_, ?_, ?_⟩
  · obtain h | rfl := h
    · exact not_isWordChar_of_isSeparator h
    · decide
  · rintro rfl
    exact absurd h (by decide)
  · rintro rfl
    exact absurd h (by decide)

namespace Reader

theorem skipLayout_run {w rest : List Char} (hw : IsLayout w)
    (hr : ∀ c ∈ rest.head?, isLayout c = false) : skipLayout (w ++ rest) = rest :=
  dropWhile_run hw hr

theorem skipLayout_all {w : List Char} (hw : IsLayout w) : skipLayout w = [] :=
  List.dropWhile_eq_nil_iff.2 hw

theorem skipSeparators_run {w rest : List Char} (hw : IsSeparators w)
    (hr : ∀ c ∈ rest.head?, isSeparator c = false) : skipSeparators (w ++ rest) = rest :=
  dropWhile_run hw hr

theorem patternThen_written {p : String} (hp : IsPattern p) (missing unclosed : Expected)
    (rest : List Char) :
    patternThen missing unclosed (escapeSlashes p.toList ++ '/' :: rest) = .read p rest := by
  have ht := text_escapeSlashes hp.2 (stopsText_slash (fun _ => false) rest) rfl
  rw [patternThen]
  rw [ht]
  cases hl : p.toList with
  | nil => exact absurd (String.toList_eq_nil_iff.1 hl) hp.1
  | cons c s =>
      change Reading.read (String.ofList (c :: s)) rest = _
      rw [← hl, String.ofList_toList]

theorem statusCode_written {code : String} (hc : IsStatusCode code) {rest : List Char}
    (hr : ∀ c ∈ rest.head?, isCodeChar c = false) :
    statusCode (code.toList ++ rest) = .read code rest := by
  have hw : ∀ c ∈ code.toList, isCodeChar c = true := by
    intro c h
    simp [isCodeChar, hc.2 c h]
  rw [statusCode]
  rw [takeWhile_run hw hr, dropWhile_run hw hr]
  cases hl : code.toList with
  | nil => exact absurd (String.toList_eq_nil_iff.1 hl) hc.1
  | cons c s =>
      change Reading.read (String.ofList (c :: s)) rest = _
      rw [← hl, String.ofList_toList]

theorem numeral?_hyphen (s : List Char) : numeral? ('-' :: s) = none := rfl

theorem signed_of_numeral? {s rest : List Char} {n : Nat} (h : numeral? s = some (n, rest)) :
    signed s = .read n rest := by
  have hs : ∀ t, s ≠ '-' :: t := by
    rintro t rfl
    rw [numeral?_hyphen] at h
    cases h
  rw [signed, h]
  exact hs

theorem signed_written {n : Int} {d rest : List Char} (h : IsSignedNumeral n d)
    (hn : n.natAbs ≤ maxLineNumber) (hr : ∀ c ∈ rest.head?, c.isDigit = false) :
    signed (d ++ rest) = .read n rest := by
  obtain ⟨e, he, ⟨h₀, rfl⟩ | ⟨h₀, rfl⟩⟩ := h
  · rw [signed_of_numeral? (numeral?_append he hn hr), Int.natAbs_of_nonneg h₀]
  · have hv : -(n.natAbs : Int) = n := by omega
    rw [List.cons_append, signed, numeral?_append he hn hr]
    simp only [hv]

theorem lineSpec_range {a b : Nat} {d e rest : List Char} (ha : IsNumeral a d)
    (hb : IsNumeral b e) (ha' : a ≤ maxLineNumber) (hb' : b ≤ maxLineNumber)
    (hr : ∀ c ∈ rest.head?, c.isDigit = false) :
    lineSpec (d ++ '-' :: (e ++ rest)) = .read (.range a b) rest := by
  have hd : numeral? (d ++ '-' :: (e ++ rest)) = some (a, '-' :: (e ++ rest)) :=
    numeral?_append ha ha' (by simp)
  simp only [lineSpec, range?, hd, numeral?_append hb hb' hr, Option.map_some]

theorem lineSpec_index {n : Int} {d rest : List Char} (h : IsSignedNumeral n d)
    (hn : n.natAbs ≤ maxLineNumber) (hr : ∀ c ∈ rest.head?, c.isDigit = false ∧ c ≠ '-') :
    lineSpec (d ++ rest) = .read (.index n) rest := by
  have hs := signed_written h hn fun c hc => (hr c hc).1
  have hrange : range? (d ++ rest) = none := by
    obtain ⟨e, he, ⟨h₀, rfl⟩ | ⟨h₀, rfl⟩⟩ := h
    · rw [range?, numeral?_append he hn fun c hc => (hr c hc).1]
      cases rest with
      | nil => rfl
      | cons c s =>
          have hc : c ≠ '-' := (hr c rfl).2
          split
          · rename_i heq
            cases heq
            exact absurd rfl hc
          · rfl
    · rfl
  rw [lineSpec, hrange, hs]
  rfl

/-- Nothing that a number or a status rule could go on with. -/
def Clear (rest : List Char) : Prop :=
  (∀ c ∈ rest.head?, c.isDigit = false ∧ c ≠ '-') ∧
    keyword? ['e', 'l', 's', 'e'] (skipLayout rest) = none

theorem isWordChar_of_isDigit {c : Char} (h : c.isDigit = true) : isWordChar c = true := by
  have hc : c.toNat < 0x80 := by
    have h₉ := (Char.isDigit_iff_toNat.1 h).2
    change c.toNat ≤ 57 at h₉
    omega
  simp [isWordChar, isLetterOrNumber, hc, Char.isAlphanum, h]

theorem no_number_of_isSeparator {c : Char} (h : isSeparator c = true) :
    c.isDigit = false ∧ c ≠ '-' := by
  refine ⟨?_, ?_⟩
  · rw [Bool.eq_false_iff]
    intro hd
    have hw := isWordChar_of_isDigit hd
    rw [not_isWordChar_of_isSeparator h] at hw
    cases hw
  · rintro rfl
    exact absurd h (by decide)

theorem clear_of_isLayout {w : List Char} (hw : IsLayout w) : Clear w := by
  refine ⟨fun c hc => ?_, by rw [skipLayout_all hw]; rfl⟩
  exact no_number_of_isSeparator (isSeparator_of_isLayout (hw c (List.mem_of_mem_head? hc)))

/-- After some separators, layout is followed by another separator or by what follows them all. -/
theorem head?_skipLayout_separators {w rest : List Char} {d : Char} (hw : IsSeparators w)
    (hd : rest.head? = some d) (hl : isLayout d = false) :
    ∃ c, (skipLayout (w ++ rest)).head? = some c ∧ (isSeparator c = true ∨ c = d) := by
  induction w with
  | nil =>
      have hs : skipLayout ([] ++ rest) = rest :=
        skipLayout_run isLayout_nil (by simp [hd, hl])
      exact ⟨d, by rw [hs, hd], .inr rfl⟩
  | cons c w ih =>
      by_cases hc : isLayout c = true
      · have := ih fun x hx => hw x (List.mem_cons_of_mem _ hx)
        simpa [skipLayout, List.dropWhile_cons, hc] using this
      · exact ⟨c, by simp [skipLayout, hc], .inl (hw c List.mem_cons_self)⟩

end Reader

/-- The letters that rules start with. -/
def ruleLetters : List Char := ['i', 'b', 's', 'p', 'g', 'r', 'j']

theorem IsPrintWord.head {word : List Char} (h : IsPrintWord word) (s : List Char) :
    (word ++ s).head? = some 'p' := by
  obtain rfl | rfl := h <;> rfl

theorem Written.head {scope : Scope} {r : Rule String} {e : Ending} {u : List Char}
    (h : Written scope r e u) : ∃ c ∈ ruleLetters, u.head? = some c := by
  cases h with
  | @substituteClosed _ _ _ everywhere _ | @substituteOpen _ _ _ everywhere _
  | @substituteDangling _ _ _ everywhere _ =>
      exact ⟨if everywhere then 'g' else 's', by cases everywhere <;> decide, rfl⟩
  | setLine _ | onStatus _ _ | onStatusElse _ _ _ _ _ => exact ⟨'s', by decide, rfl⟩
  | keepMatching hw | keepIndex hw _ | keepRange hw _ _ => exact ⟨'p', by decide, hw.head _⟩
  | keepAll => exact ⟨'p', by decide, rfl⟩
  | arrange how => cases how <;> exact ⟨_, by decide, rfl⟩
  | ifMatch _ _ => exact ⟨'i', by decide, rfl⟩
  | between _ _ => exact ⟨'b', by decide, rfl⟩

/-- A block goes on with separators, and then with a rule or with its brace. -/
theorem WrittenBody.head {rs : List (Rule String)} {v : List Char} (h : WrittenBody rs v) :
    ∃ w s d, IsSeparators w ∧ v = w ++ s ∧ s.head? = some d ∧ (d = '}' ∨ d ∈ ruleLetters) := by
  cases h with
  | nil hw => exact ⟨_, _, _, hw, rfl, rfl, .inl rfl⟩
  | @cons _ _ _ w u v hw hu _ _ =>
      obtain ⟨c, hc, hd⟩ := hu.head
      refine ⟨w, u ++ v, c, hw, rfl, ?_, .inr hc⟩
      rw [List.head?_append, hd]
      rfl

namespace Reader

/-- Neither the brace of a block nor a rule in it is taken for something else. -/
theorem writtenBody_letter {d : Char} (h : d = '}' ∨ d ∈ ruleLetters) :
    isSeparator d = false ∧ isLayout d = false ∧ d.isDigit = false ∧ d ≠ '-' ∧ d ≠ 'e' := by
  obtain rfl | h := h
  · decide
  · simp only [ruleLetters, List.mem_cons, List.not_mem_nil, or_false] at h
    obtain rfl | rfl | rfl | rfl | rfl | rfl | rfl := h <;> decide

theorem keyword?_eq_none_of_head {word s : List Char} {c d : Char} (hs : s.head? = some c)
    (hw : word.head? = some d) (h : c ≠ d) : keyword? word s = none := by
  rw [Option.eq_none_iff_forall_ne_some]
  intro rest hk
  rw [(keyword?_eq_some_iff.1 hk).1, List.head?_append, hw] at hs
  cases hs
  exact h rfl

theorem clear_of_writtenBody {rs : List (Rule String)} {v : List Char} (h : WrittenBody rs v)
    (rest : List Char) : Clear (v ++ rest) := by
  obtain ⟨w, s, d, hw, rfl, hd, hd'⟩ := h.head
  have hds : (s ++ rest).head? = some d := by
    rw [List.head?_append, hd]
    rfl
  obtain ⟨-, hlayout, hdigit, hhyphen, helse⟩ := writtenBody_letter hd'
  rw [List.append_assoc]
  constructor
  · intro c hc
    cases w with
    | nil =>
        rw [List.nil_append, hds] at hc
        cases hc
        exact ⟨hdigit, hhyphen⟩
    | cons x w =>
        cases hc
        exact no_number_of_isSeparator (hw c List.mem_cons_self)
  · obtain ⟨c, hc, hc'⟩ := head?_skipLayout_separators hw hds hlayout
    refine keyword?_eq_none_of_head hc rfl ?_
    rintro rfl
    obtain hc' | rfl := hc'
    · exact absurd hc' (by decide)
    · exact helse rfl

theorem rulesThenBrace_nil {w : List Char} (hw : IsSeparators w) (rest : List Char) :
    rulesThenBrace (w ++ '}' :: rest) = .read [] rest := by
  have hs : skipSeparators (w ++ '}' :: rest) = '}' :: rest :=
    skipSeparators_run hw (by simp [isSeparator, isWhite])
  have hr : rule .block ('}' :: rest) = .refused ('}' :: rest) := by
    rw [rule_of_no_print _ rfl rfl rfl rfl]
    rfl
  rw [rulesThenBrace, hs, hr]
  rfl

theorem before_append {e : Ending} {rs : List (Rule String)} {v : List Char} (h : e.Before v)
    (hv : WrittenBody rs v) (rest : List Char) : e.Before (v ++ rest) := by
  obtain ⟨w, s, d, -, rfl, hd, -⟩ := hv.head
  cases e with
  | closed => trivial
  | loose =>
      intro c hc
      apply h c
      cases w with
      | nil =>
          rw [List.nil_append, List.head?_append, hd] at hc
          rwa [List.nil_append, hd]
      | cons x w => exact hc
  | last =>
      change w ++ s = [] at h
      rw [List.append_eq_nil_iff] at h
      rw [h.2] at hd
      cases hd

theorem rulesThenBrace_cons {r : Rule String} {rs : List (Rule String)} {e : Ending}
    {w u v rest : List Char} (hw : IsSeparators w) (hu : Written .block r e u)
    (hread : rule .block (u ++ (v ++ rest)) = .read r (v ++ rest))
    (hrs : rulesThenBrace (v ++ rest) = .read rs rest) :
    rulesThenBrace (w ++ (u ++ v) ++ rest) = .read (r :: rs) rest := by
  obtain ⟨c, hmem, hd⟩ := hu.head
  have hskip : skipSeparators (w ++ (u ++ v) ++ rest) = u ++ (v ++ rest) := by
    rw [List.append_assoc, List.append_assoc]
    refine skipSeparators_run hw fun x hx => ?_
    rw [List.head?_append, hd] at hx
    cases hx
    exact (writtenBody_letter (.inr hmem)).1
  have hlt : (v ++ rest).length < (w ++ (u ++ v) ++ rest).length := by
    cases u with
    | nil => cases hd
    | cons x u =>
        simp only [List.length_append, List.length_cons]
        omega
  rw [rulesThenBrace, hskip, hread]
  simp only [if_pos hlt, hrs]
  rfl

theorem blockAfter_written {w v rest : List Char} {rs : List (Rule String)} (hw : IsLayout w)
    (h : rulesThenBrace v = .read rs rest) : blockAfter (w ++ '{' :: v) = .read rs rest := by
  rw [blockAfter, skipLayout_run hw (by simp [isLayout]), block_brace, h]
  rfl

theorem substituteAfter_pattern (scope : Scope) (everywhere : Bool) {p : String}
    (hp : IsPattern p) (s : List Char) :
    substituteAfter scope everywhere (escapeSlashes p.toList ++ '/' :: s) =
      .read (.substitute p (String.ofList (text scope.endsText s).1) everywhere)
        (dropSlash (text scope.endsText s).2) := by
  rw [substituteAfter, patternThen_written hp]
  rfl

theorem substituteAfter_open (scope : Scope) (everywhere : Bool) {p t : String} {s rest : List Char}
    (hp : IsPattern p) (ht : text scope.endsText s = (t.toList, rest))
    (hr : rest.head? ≠ some '/') :
    substituteAfter scope everywhere (escapeSlashes p.toList ++ '/' :: s) =
      .read (.substitute p t everywhere) rest := by
  rw [substituteAfter_pattern scope everywhere hp, ht, String.ofList_toList,
    dropSlash_of_head? hr]

theorem endsText_of_before {scope : Scope} {rest : List Char}
    (h : scope.textEnding.Before rest) : ∀ c ∈ rest.head?, scope.endsText c = true := by
  intro c hc
  cases scope with
  | top =>
      cases h
      cases hc
  | block =>
      obtain h | rfl := h c hc
      · simp [Scope.endsText, h]
      · rfl

theorem stopsText_of_before {scope : Scope} {rest : List Char}
    (h : scope.textEnding.Before rest) : StopsText scope.endsText rest :=
  fun c hc => .inr (endsText_of_before h c hc)

theorem head?_ne_slash_of_before {e : Ending} {rest : List Char} (h : e.Before rest)
    (he : e ≠ .closed) : rest.head? ≠ some '/' := by
  intro hs
  cases e with
  | closed => exact he rfl
  | loose => exact (loose_head (h '/' hs)).2.2 rfl
  | last =>
      cases h
      cases hs

theorem selects_colon (s : List Char) : Selects (':' :: s) := .inl rfl

theorem selects_slash (s : List Char) : Selects ('/' :: s) := .inr rfl

theorem rule_select (scope : Scope) {word s : List Char} (hw : IsPrintWord word)
    (hs : Selects s) : rule scope (word ++ s) = selector s := by
  obtain rfl | rfl := hw
  · exact rule_p scope hs
  · exact rule_print scope hs

theorem endsWord_of_before {rest : List Char} (h : Ending.Before .loose rest) : EndsWord rest :=
  fun c hc => (loose_head (h c hc)).1

theorem not_selects_of_before {rest : List Char} (h : Ending.Before .loose rest) :
    ¬ Selects rest := by
  rintro (hs | hs)
  · exact (loose_head (h _ hs)).2.1 rfl
  · exact (loose_head (h _ hs)).2.2 rfl

/-- Layout and the brace after it end a status code and the word `else`. -/
theorem head?_layout_brace {w : List Char} (hw : IsLayout w) (s : List Char) :
    ∀ c ∈ (w ++ '{' :: s).head?, isCodeChar c = false ∧ isWordChar c = false := by
  intro c hc
  cases w with
  | nil =>
      cases hc
      decide
  | cons x w =>
      cases hc
      have hwhite := isWhite_of_isLayout (hw c List.mem_cons_self)
      exact ⟨by simp [isCodeChar, hwhite], not_isWordChar_of_isWhite hwhite⟩

theorem setLineAfter_written {scope : Scope} {n : Int} {t : String} {d rest : List Char}
    (hd : IsSignedNumeral n d) (hn : n.natAbs ≤ maxLineNumber) (ht : IsLineText scope t)
    (hr : ∀ c ∈ rest.head?, scope.endsText c = true) :
    setLineAfter scope (d ++ ':' :: (t.toList ++ rest)) = .read (.setLine n t) rest := by
  have ht' : ∀ c ∈ t.toList, (!scope.endsText c) = true := by
    intro c hc
    simp [ht c hc]
  have hr' : ∀ c ∈ rest.head?, (!scope.endsText c) = false := by
    intro c hc
    simp [hr c hc]
  rw [setLineAfter, signed_written hd hn (by simp)]
  simp only [Reading.orFail, Reading.andThen]
  rw [takeWhile_run ht' hr', dropWhile_run ht' hr', String.ofList_toList]

theorem otherwiseAfter_written {code : String} {body otherwise : List (Rule String)}
    {w₁ w₂ v rest : List Char} (hw₁ : IsLayout w₁) (hw₂ : IsLayout w₂)
    (h : rulesThenBrace v = .read otherwise rest) :
    otherwiseAfter code body (w₁ ++ (['e', 'l', 's', 'e'] ++ (w₂ ++ '{' :: v))) =
      .read (.onStatus code body otherwise) rest := by
  have hk : keyword? ['e', 'l', 's', 'e'] (['e', 'l', 's', 'e'] ++ (w₂ ++ '{' :: v)) =
      some (w₂ ++ '{' :: v) :=
    keyword?_eq_some_iff.2 ⟨rfl, fun c hc => (head?_layout_brace hw₂ v c hc).2⟩
  rw [otherwiseAfter, skipLayout_run hw₁ (by simp [isLayout]), hk]
  simp only
  rw [blockAfter_written hw₂ h]
  rfl

mutual

/-- A well-formed rule is read back from each of its texts, and a block from each of its own. -/
theorem rule_of_written {scope : Scope} {r : Rule String} {e : Ending} {u : List Char}
    (h : Written scope r e u) (hr : r.WellFormed scope) {rest : List Char} (he : e.Before rest)
    (hc : Clear rest) : rule scope (u ++ rest) = .read r rest := by
  cases h with
  | @substituteClosed _ p t everywhere ht =>
      have hread := text_escapeSlashes ht (stopsText_slash _ rest) scope.not_endsText_backslash
      rw [List.append_assoc, rule_substitute]
      simp only [List.append_assoc, List.cons_append, List.nil_append]
      rw [substituteAfter_pattern scope everywhere hr.1, hread, String.ofList_toList]
      rfl
  | @substituteOpen _ p t everywhere ht =>
      have hread := text_escapeSlashes ht (stopsText_of_before he) scope.not_endsText_backslash
      have hne : scope.textEnding ≠ .closed := by cases scope <;> decide
      rw [List.append_assoc, rule_substitute]
      simp only [List.append_assoc, List.cons_append]
      exact substituteAfter_open scope everywhere hr.1 hread (head?_ne_slash_of_before he hne)
  | @substituteDangling _ p t everywhere ht =>
      obtain ⟨t', ht', hl⟩ := ht
      have hread : text scope.endsText (escapeSlashes t.toList) = (t.toList, []) := by
        rw [hl, escapeSlashes_append]
        exact text_escapeSlashes_backslash ht'
      cases he
      rw [List.append_nil, rule_substitute]
      exact substituteAfter_open scope everywhere hr.1 hread (by simp)
  | setLine hd =>
      rw [List.append_assoc, rule_setLine]
      simp only [List.append_assoc, List.cons_append]
      exact setLineAfter_written hd hr.1 hr.2 (endsText_of_before he)
  | keepMatching hw =>
      rw [List.append_assoc, List.cons_append, rule_select _ hw (selects_slash _)]
      simp only [List.append_assoc, List.cons_append, List.nil_append]
      rw [selector, closedPattern, patternThen_written hr]
      rfl
  | keepIndex hw hd =>
      rw [List.append_assoc, List.cons_append, rule_select _ hw (selects_colon _), selector,
        lineSpec_index hd hr hc.1]
      rfl
  | keepRange hw hd hd' =>
      obtain ⟨-, ha, -, hb⟩ := hr
      rw [List.append_assoc, List.cons_append, rule_select _ hw (selects_colon _)]
      simp only [List.append_assoc, List.cons_append]
      rw [selector, lineSpec_range hd hd' (by exact_mod_cast ha) (by exact_mod_cast hb)
        fun c h => (hc.1 c h).1]
      rfl
  | keepAll => exact rule_printAll _ (not_selects_of_before he) (endsWord_of_before he)
  | arrange how => exact rule_arrange _ how (endsWord_of_before he)
  | ifMatch hw hv =>
      rw [List.append_assoc, rule_if, ifAfter]
      simp only [List.append_assoc, List.cons_append]
      rw [closedPattern, patternThen_written hr.1]
      simp only [Reading.andThen]
      rw [blockAfter_written hw (rulesThenBrace_of_writtenBody hv hr.2 rest)]
      rfl
  | between hw hv =>
      rw [List.append_assoc, rule_between, betweenAfter]
      simp only [List.append_assoc, List.cons_append]
      rw [patternThen_written hr.1]
      simp only [Reading.andThen]
      rw [closedPattern, patternThen_written hr.2.1]
      simp only
      rw [blockAfter_written hw (rulesThenBrace_of_writtenBody hv hr.2.2 rest)]
      rfl
  | onStatus hw hv =>
      rw [List.append_assoc, rule_status, statusAfter]
      simp only [List.append_assoc, List.cons_append]
      rw [statusCode_written hr.1 fun c h => (head?_layout_brace hw _ c h).1]
      simp only [Reading.andThen]
      rw [blockAfter_written hw (rulesThenBrace_of_writtenBody hv hr.2.1 rest)]
      simp only [otherwiseAfter, hc.2]
  | onStatusElse hw hv hw₁ hw₂ hv' =>
      rw [List.append_assoc, rule_status, statusAfter]
      simp only [List.append_assoc, List.cons_append]
      rw [statusCode_written hr.1 fun c h => (head?_layout_brace hw _ c h).1]
      simp only [Reading.andThen]
      rw [blockAfter_written hw (rulesThenBrace_of_writtenBody hv hr.2.1 _)]
      exact otherwiseAfter_written hw₁ hw₂ (rulesThenBrace_of_writtenBody hv' hr.2.2 rest)

theorem rulesThenBrace_of_writtenBody {rs : List (Rule String)} {v : List Char}
    (h : WrittenBody rs v) (hr : Rule.AllWellFormed rs) (rest : List Char) :
    rulesThenBrace (v ++ rest) = .read rs rest := by
  cases h with
  | nil hw =>
      rw [List.append_assoc]
      exact rulesThenBrace_nil hw _
  | cons hw hu hb hv =>
      exact rulesThenBrace_cons hw hu
        (rule_of_written hu hr.1 (before_append hb hv rest) (clear_of_writtenBody hv rest))
        (rulesThenBrace_of_writtenBody hv hr.2 rest)

end

end Reader

theorem Rule.read_of_rule {source : String} {r : Rule String} {rest : List Char}
    (h : Reader.rule .top (Reader.skipLayout source.toList) = .read r rest)
    (hrest : IsLayout rest) : Rule.read source = .ok r := by
  simp only [Rule.read, h, Reader.skipLayout_all hrest]

/-- Reading undoes writing, whatever layout is chosen. -/
theorem Rule.read_of_writtenAs {r : Rule String} {source : String} (hr : r.WellFormed .top)
    (h : r.WrittenAs source) : Rule.read source = .ok r := by
  obtain ⟨w, u, w', e, hw, hw', hu, he, hs⟩ := h
  obtain ⟨c, hmem, hd⟩ := hu.head
  have hskip : Reader.skipLayout (w ++ (u ++ w')) = u ++ w' := by
    refine Reader.skipLayout_run hw fun x hx => ?_
    rw [List.head?_append, hd] at hx
    cases hx
    exact (Reader.writtenBody_letter (.inr hmem)).2.1
  refine Rule.read_of_rule ?_ hw'
  rw [hs, hskip]
  exact Reader.rule_of_written hu hr he (Reader.clear_of_isLayout hw')

end Linewise
