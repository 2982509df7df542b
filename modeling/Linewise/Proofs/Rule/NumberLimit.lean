import Linewise.Proofs.Rule.Nesting

/-!
Numbers that are too great. A number of a line is read exactly or not at all, whatever zeros stand
in front of it. Where the second number of a range does not fit, the first one is read as a
position, and the hyphen that is left then fails the text. So no range is taken for its first
number.
-/
namespace Linewise

/-- A number as it may be written: any digits, but at least one. -/
def IsDigits (d : List Char) : Prop := d ≠ [] ∧ ∀ c ∈ d, c.isDigit = true

instance (d : List Char) : Decidable (IsDigits d) :=
  @instDecidableAnd _ _ _ (List.decidableBAll _ d)

/-- The number that digits stand for. -/
abbrev decimalValue (d : List Char) : Nat := Nat.ofDigitChars 10 d 0

theorem IsDigits.isNumeral {d : List Char} (h : IsDigits d) : IsNumeral (decimalValue d) d :=
  isNumeral_ofDigitChars h.1 h.2

theorem IsDigits.head {d : List Char} (h : IsDigits d) :
    ∃ c s, d = c :: s ∧ c.isDigit = true := by
  obtain ⟨c, s, rfl⟩ := List.exists_cons_of_ne_nil h.1
  exact ⟨c, s, rfl, h.2 c List.mem_cons_self⟩

theorem utf8Size_of_isDigit {d : List Char} (h : ∀ c ∈ d, c.isDigit = true) :
    utf8Size d = d.length := by
  induction d with
  | nil => rfl
  | cons c d ih =>
      have hc : c.utf8Size = 1 := by
        rw [Char.utf8Size_eq_one_iff, UInt32.le_iff_toNat_le]
        have h₉ := (Char.isDigit_iff_toNat.1 (h c List.mem_cons_self)).2
        exact Nat.le_trans h₉ (by decide)
      rw [utf8Size_cons, hc, ih fun x hx => h x (List.mem_cons_of_mem _ hx), List.length_cons,
        Nat.add_comm]

/-- Nothing with which a number could go on. -/
def EndsNumber (rest : List Char) : Prop := ∀ c ∈ rest.head?, c.isDigit = false

theorem endsNumber_hyphen (s : List Char) : EndsNumber ('-' :: s) := by simp [EndsNumber]

theorem endsNumber_colon (s : List Char) : EndsNumber (':' :: s) := by simp [EndsNumber]

namespace Reader

variable {d e rest : List Char}

theorem numeral?_digits (hd : IsDigits d) (hr : EndsNumber rest) :
    numeral? (d ++ rest) =
      if decimalValue d ≤ maxLineNumber then some (decimalValue d, rest) else none := by
  split
  · rename_i hfits
    exact numeral?_append hd.isNumeral hfits hr
  · rename_i hlarge
    simp only [numeral?, takeWhile_run hd.2 hr, ← Nat.ofDigitChars_eq_foldl]
    rw [if_pos (.inr (Nat.not_le.1 hlarge))]

/-- Digits that do not fit are not taken. -/
theorem signed_digits (hd : IsDigits d) (hr : EndsNumber rest) :
    signed (d ++ rest) =
      if decimalValue d ≤ maxLineNumber then .read (decimalValue d : Int) rest
      else .refused (d ++ rest) := by
  have hhyphen : ∀ t, d ++ rest ≠ '-' :: t := by
    obtain ⟨c, s, rfl, hc⟩ := hd.head
    intro t ht
    cases ht
    exact absurd hc (by decide)
  rw [signed, numeral?_digits hd hr]
  · by_cases h : decimalValue d ≤ maxLineNumber
    · simp only [if_pos h]
    · simp only [if_neg h]
  · exact hhyphen

/-- Of a negative number that does not fit the hyphen is taken. -/
theorem signed_hyphen_digits (hd : IsDigits d) (hr : EndsNumber rest) :
    signed ('-' :: (d ++ rest)) =
      if decimalValue d ≤ maxLineNumber then .read (-(decimalValue d : Int)) rest
      else .refused (d ++ rest) := by
  rw [signed, numeral?_digits hd hr]
  by_cases h : decimalValue d ≤ maxLineNumber
  · simp only [if_pos h]
  · simp only [if_neg h]

theorem lineSpec_of_not_range {s : List Char} (h : range? s = none) :
    lineSpec s = (signed s).map .index := by
  rw [lineSpec, h]

theorem range?_digits (hd : IsDigits d) (hr : EndsNumber rest) (hhyphen : rest.head? ≠ some '-') :
    range? (d ++ rest) = none := by
  rw [range?, numeral?_digits hd hr]
  split
  · rename_i heq
    split at heq
    · cases heq
      exact absurd rfl hhyphen
    · cases heq
  · rfl

/-- The second number is looked at only if the first one fits. -/
theorem range?_range (hd : IsDigits d) (he : IsDigits e) (hr : EndsNumber rest) :
    range? (d ++ '-' :: (e ++ rest)) =
      if decimalValue d ≤ maxLineNumber ∧ decimalValue e ≤ maxLineNumber then
        some (.range (decimalValue d) (decimalValue e), rest)
      else none := by
  have hfirst := numeral?_digits hd (endsNumber_hyphen (e ++ rest))
  by_cases h : decimalValue d ≤ maxLineNumber
  · rw [if_pos h] at hfirst
    simp only [range?, hfirst, numeral?_digits he hr, h, true_and]
    split <;> rfl
  · rw [if_neg h] at hfirst
    simp only [range?, hfirst, h, false_and, if_false]

theorem rule_number (scope : Scope) {word : List Char} (hw : IsPrintWord word) (s : List Char) :
    rule scope (word ++ ':' :: s) = ((lineSpec s).orFail .lineSpec).map .keepLines := by
  rw [rule_select scope hw (selects_colon s), selector]

end Reader

/-- A rule with a number, or the place of the number if there is no such line. -/
def ifFits (n : Nat) (r : Rule String) (place : Nat) : Except Nat (Rule String) :=
  if n ≤ maxLineNumber then .ok r else .error place

/-- The first text is that of a rule with a number, and the second one does not go on with it. What is
to come of it is the rule, or an error after some of the bytes of the first text. -/
inductive Numbered (scope : Scope) :
    List Char → List Char → Except Nat (Rule String) → Prop
  | index {word d rest : List Char} :
      IsPrintWord word → IsDigits d → EndsNumber rest → rest.head? ≠ some '-' →
      Numbered scope (word ++ ':' :: d) rest
        (ifFits (decimalValue d) (.keepLines (.index (decimalValue d))) (word.length + 1))
  | indexFromEnd {word d rest : List Char} :
      IsPrintWord word → IsDigits d → EndsNumber rest →
      Numbered scope (word ++ ':' :: '-' :: d) rest
        (ifFits (decimalValue d) (.keepLines (.index (-decimalValue d))) (word.length + 2))
  | range {word d e rest : List Char} :
      IsPrintWord word → IsDigits d → IsDigits e → EndsNumber rest →
      Numbered scope (word ++ ':' :: (d ++ '-' :: e)) rest
        (if decimalValue d ≤ maxLineNumber then
          ifFits (decimalValue e) (.keepLines (.range (decimalValue d) (decimalValue e)))
            (word.length + 1 + d.length)
        else .error (word.length + 1))
  | setLine {d rest : List Char} {t : String} :
      IsDigits d → IsLineText scope t → (∀ c ∈ rest.head?, scope.endsText c = true) →
      Numbered scope (['s', ':'] ++ (d ++ ':' :: t.toList)) rest
        (ifFits (decimalValue d) (.setLine (decimalValue d) t) 2)
  | setLineFromEnd {d rest : List Char} {t : String} :
      IsDigits d → IsLineText scope t → (∀ c ∈ rest.head?, scope.endsText c = true) →
      Numbered scope (['s', ':'] ++ ('-' :: d ++ ':' :: t.toList)) rest
        (ifFits (decimalValue d) (.setLine (-decimalValue d) t) 3)

namespace Reader

variable {scope : Scope} {u rest : List Char}

/-- Reading a rule stops for good at a place, or reads a rule up to a hyphen. -/
def Stops (scope : Scope) (s rest : List Char) : Prop :=
  (∃ e, rule scope s = .failed rest e) ∨
    ∃ r t, rule scope s = .read r rest ∧ rest = '-' :: t

/-- What comes of a number: the rule, or a stop after as many bytes as there should be. -/
def Comes (scope : Scope) (u rest : List Char) : Except Nat (Rule String) → Prop
  | .ok r => rule scope (u ++ rest) = .read r rest
  | .error place => ∃ pre post, u = pre ++ post ∧ pre.length = place ∧ utf8Size pre = place ∧
      Stops scope (u ++ rest) (post ++ rest)

theorem comes_ifFits {n place : Nat} {r : Rule String} (pre post : List Char)
    (hfits : n ≤ maxLineNumber → rule scope (u ++ rest) = .read r rest)
    (hlarge : ¬ n ≤ maxLineNumber → Stops scope (u ++ rest) (post ++ rest))
    (hu : u = pre ++ post) (hlength : pre.length = place) (hsize : utf8Size pre = place) :
    Comes scope u rest (ifFits n r place) := by
  rw [ifFits]
  split
  · rename_i h
    exact hfits h
  · rename_i h
    exact ⟨pre, post, hu, hlength, hsize, hlarge h⟩

theorem utf8Size_of_isPrintWord {word : List Char} (h : IsPrintWord word) :
    utf8Size word = word.length := by
  obtain rfl | rfl := h <;> rfl

section

variable {word d e : List Char} {n : Int} (hyphen : List Char)

/-- A position, with the hyphen before it if there is one. -/
theorem comes_index (hw : IsPrintWord word) (hrange : range? (hyphen ++ d ++ rest) = none)
    (hsigned : signed (hyphen ++ d ++ rest) =
      if decimalValue d ≤ maxLineNumber then .read n rest else .refused (d ++ rest))
    (hsize : utf8Size hyphen = hyphen.length) :
    Comes scope (word ++ ':' :: (hyphen ++ d)) rest
      (ifFits (decimalValue d) (.keepLines (.index n)) (word.length + 1 + hyphen.length)) := by
  have hrule : rule scope (word ++ ':' :: (hyphen ++ d) ++ rest) =
      (((signed (hyphen ++ d ++ rest)).map LineSpec.index).orFail .lineSpec).map .keepLines := by
    rw [List.append_assoc, List.cons_append, rule_number scope hw, lineSpec_of_not_range hrange]
  rw [hsigned] at hrule
  refine comes_ifFits (word ++ ':' :: hyphen) d (fun h => ?_) (fun h => ?_) (by simp) (by simp; omega) ?_
  · rw [hrule, if_pos h]
    rfl
  · rw [if_neg h] at hrule
    exact .inl ⟨_, hrule⟩
  · simp [utf8Size_of_isPrintWord hw, hsize, Char.utf8Size]
    omega

theorem comes_range (hw : IsPrintWord word) (hd : IsDigits d) (he : IsDigits e)
    (hr : EndsNumber rest) :
    Comes scope (word ++ ':' :: (d ++ '-' :: e)) rest
      (if decimalValue d ≤ maxLineNumber then
        ifFits (decimalValue e) (.keepLines (.range (decimalValue d) (decimalValue e)))
          (word.length + 1 + d.length)
      else .error (word.length + 1)) := by
  have hrule : rule scope (word ++ ':' :: (d ++ '-' :: e) ++ rest) =
      ((lineSpec (d ++ '-' :: (e ++ rest))).orFail .lineSpec).map .keepLines := by
    simp only [List.append_assoc, List.cons_append]
    rw [rule_number scope hw]
  have hsigned := signed_digits hd (endsNumber_hyphen (e ++ rest))
  by_cases hfirst : decimalValue d ≤ maxLineNumber
  · rw [if_pos hfirst] at hsigned ⊢
    refine comes_ifFits (word ++ ':' :: d) ('-' :: e) (fun h => ?_) (fun h => ?_) (by simp)
      (by simp; omega) ?_
    · rw [hrule, lineSpec, range?_range hd he hr, if_pos ⟨hfirst, h⟩]
      rfl
    · -- The first number alone is read, and the hyphen is left.
      have hrange : range? (d ++ '-' :: (e ++ rest)) = none := by
        rw [range?_range hd he hr, if_neg fun hboth => h hboth.2]
      rw [lineSpec_of_not_range hrange, hsigned] at hrule
      exact .inr ⟨_, _, hrule, rfl⟩
    · simp [utf8Size_of_isPrintWord hw, utf8Size_of_isDigit hd.2, Char.utf8Size]
      omega
  · have hrange : range? (d ++ '-' :: (e ++ rest)) = none := by
      rw [range?_range hd he hr, if_neg fun hboth => hfirst hboth.1]
    rw [if_neg hfirst] at hsigned ⊢
    rw [lineSpec_of_not_range hrange, hsigned] at hrule
    refine ⟨word ++ [':'], d ++ '-' :: e, by simp, by simp, ?_, .inl ⟨.lineSpec, ?_⟩⟩
    · simp [utf8Size_of_isPrintWord hw, Char.utf8Size]
    · rw [hrule]
      simp [Reading.map, Reading.orFail]

/-- The text of a line, under its number with the hyphen before it if there is one. -/
theorem comes_setLine {t : String} (hn : IsSignedNumeral n (hyphen ++ d))
    (habs : n.natAbs = decimalValue d)
    (hsigned : ∀ rest, EndsNumber rest → signed (hyphen ++ d ++ rest) =
      if decimalValue d ≤ maxLineNumber then .read n rest else .refused (d ++ rest))
    (hsize : utf8Size hyphen = hyphen.length) (ht : IsLineText scope t)
    (hr : ∀ c ∈ rest.head?, scope.endsText c = true) :
    Comes scope (['s', ':'] ++ (hyphen ++ d ++ ':' :: t.toList)) rest
      (ifFits (decimalValue d) (.setLine n t) (2 + hyphen.length)) := by
  have hrule : rule scope (['s', ':'] ++ (hyphen ++ d ++ ':' :: t.toList) ++ rest) =
      setLineAfter scope (hyphen ++ d ++ ':' :: (t.toList ++ rest)) := by
    rw [List.append_assoc, rule_setLine, List.append_assoc, List.cons_append]
  refine comes_ifFits (['s', ':'] ++ hyphen) (d ++ ':' :: t.toList) (fun h => ?_)
    (fun h => .inl ⟨.lineNumber, ?_⟩) (by simp) (by simp; omega) ?_
  · rw [hrule]
    exact setLineAfter_written hn (habs ▸ h) ht hr
  · rw [hrule, setLineAfter, hsigned _ (endsNumber_colon _), if_neg h]
    simp [Reading.andThen, Reading.orFail]
  · simp [hsize, Char.utf8Size]
    omega

end

theorem comes_of_numbered {outcome : Except Nat (Rule String)}
    (h : Numbered scope u rest outcome) : Comes scope u rest outcome := by
  cases h with
  | index hw hd hr hhyphen =>
      exact comes_index [] hw (range?_digits hd hr hhyphen) (signed_digits hd hr) rfl
  | indexFromEnd hw hd hr =>
      exact comes_index ['-'] hw rfl (signed_hyphen_digits hd hr) rfl
  | range hw hd he hr => exact comes_range hw hd he hr
  | setLine hd ht hr =>
      have hn := hd.isNumeral
      exact comes_setLine [] ⟨_, by simpa using hn, .inl ⟨by omega, rfl⟩⟩ (by simp)
        (fun _ => signed_digits hd) rfl ht hr
  | setLineFromEnd hd ht hr =>
      have hn := hd.isNumeral
      exact comes_setLine ['-'] ⟨_, by simpa using hn, .inr ⟨by omega, rfl⟩⟩ (by simp)
        (fun _ => signed_hyphen_digits hd) rfl ht hr

theorem head_of_numbered {outcome : Except Nat (Rule String)}
    (h : Numbered scope u rest outcome) : ∃ c ∈ ruleLetters, u.head? = some c := by
  cases h with
  | index hw _ _ _ | indexFromEnd hw _ _ | range hw _ _ _ => exact ⟨'p', by decide, hw.head _⟩
  | setLine _ _ _ | setLineFromEnd _ _ _ => exact ⟨'s', by decide, rfl⟩

/-- No rule starts with a hyphen, so one that is left in a block fails it. -/
theorem rulesThenBrace_of_stops {s : List Char} (h : Stops .block (skipSeparators s) rest) :
    ∃ e, rulesThenBrace s = .failed rest e := by
  obtain ⟨e, hf⟩ | ⟨r, t, hr, rfl⟩ := h
  · exact ⟨e, rulesThenBrace_of_failed hf⟩
  · have hrefused : rule .block ('-' :: t) = .refused ('-' :: t) := by
      rw [rule_of_no_print _ rfl rfl rfl rfl]
      rfl
    exact ⟨_, rulesThenBrace_stuck hr (by decide) (by decide) hrefused⟩

end Reader

/-- What is read from a text: a rule, or the number of bytes before the error. -/
def Rule.readPlaced (source : String) : Except Nat (Rule String) :=
  (Rule.read source).mapError (·.offset source)

theorem Rule.readPlaced_of_error {source : String} {pre : List Char} (what : Option Expected)
    (post : List Char) (hs : source.toList = pre ++ post)
    (h : Rule.read source = .error ⟨what, source.toList.length - post.length⟩) :
    Rule.readPlaced source = .error (utf8Size pre) := by
  rw [Rule.readPlaced, h]
  simp [Except.mapError, ReadError.offset, hs]

theorem Rule.read_of_stops {u rest : List Char} (hskip : Reader.skipLayout u = u)
    (h : Reader.Stops .top u rest) :
    ∃ what, Rule.read (String.ofList u) = .error ⟨what, u.length - rest.length⟩ := by
  obtain ⟨e, hf⟩ | ⟨r, t, hr, rfl⟩ := h
  · refine ⟨some e, ?_⟩
    simp only [Rule.read, String.toList_ofList, hskip, hf]
  · have hleft : Reader.skipLayout ('-' :: t) = '-' :: t := rfl
    refine ⟨none, ?_⟩
    simp only [Rule.read, String.toList_ofList, hskip, hr, hleft]

/-- A text with a number is read as the rule with exactly that number, or fails where the number that
does not fit stands. In a block, at any depth, it is read as the same rule, or the whole text fails
there. -/
theorem Rule.read_number_exactly :
    (∀ u outcome, Numbered .top u [] outcome → Rule.readPlaced (String.ofList u) = outcome) ∧
      ∀ source before u rest outcome, source.toList = before ++ (u ++ rest) →
        Rule.InBlock source (u ++ rest) → Numbered .block u rest outcome →
          match outcome with
          | .ok r => Reader.rule .block (u ++ rest) = .read r rest
          | .error place => Rule.readPlaced source = .error (utf8Size before + place) := by
  constructor
  · intro u outcome h
    obtain ⟨c, hmem, hd⟩ := Reader.head_of_numbered h
    have hskip : Reader.skipLayout u = u := by
      refine Reader.skipLayout_run isLayout_nil fun x hx => ?_
      rw [hd] at hx
      cases hx
      exact (Reader.writtenBody_letter (.inr hmem)).2.1
    have hcomes := Reader.comes_of_numbered h
    cases outcome with
    | ok r =>
        rw [Reader.Comes, List.append_nil] at hcomes
        have hread : Rule.read (String.ofList u) = .ok r :=
          Rule.read_of_rule (by rwa [String.toList_ofList, hskip]) isLayout_nil
        rw [Rule.readPlaced, hread]
        rfl
    | error place =>
        obtain ⟨pre, post, rfl, -, hsize, hstops⟩ := hcomes
        rw [List.append_nil, List.append_nil] at hstops
        obtain ⟨what, hread⟩ := Rule.read_of_stops hskip hstops
        rw [← hsize]
        refine Rule.readPlaced_of_error what post String.toList_ofList ?_
        rw [hread, String.toList_ofList]
  · intro source before u rest outcome hs ⟨t, hreaches, ht⟩ h
    have hcomes := Reader.comes_of_numbered h
    cases outcome with
    | ok r => exact hcomes
    | error place =>
        obtain ⟨pre, post, rfl, -, hsize, hstops⟩ := hcomes
        rw [← ht] at hstops
        obtain ⟨e, hfailed⟩ := Reader.rulesThenBrace_of_stops hstops
        have hread := Rule.read_of_failed (Reader.rule_failed_of_reaches hreaches hfailed)
        have hplaced : Rule.readPlaced source = .error (utf8Size (before ++ pre)) :=
          Rule.readPlaced_of_error _ (post ++ rest) (by rw [hs]; simp) hread
        rwa [utf8Size_append, hsize] at hplaced

/-- In a block within a block the second number of a range is one too great. -/
theorem Rule.read_number_exactly_nested :
    Rule.readPlaced "p:-0009223372036854775807" =
        .ok (.keepLines (.index (-9223372036854775807))) ∧
      Rule.readPlaced "if/é/\x7bprint;if/a/ \x7bp:01-9223372036854775808\x7d\x7d" = .error 24 := by
  constructor
  · have hindex : Numbered .top (['p'] ++ ':' :: '-' :: "0009223372036854775807".toList) []
        (.ok (.keepLines (.index (-9223372036854775807)))) :=
      .indexFromEnd (.inl rfl) (by decide) (by simp [EndsNumber])
    have hs : "p:-0009223372036854775807" =
        String.ofList (['p'] ++ ':' :: '-' :: "0009223372036854775807".toList) := by simp
    rw [hs]
    exact Rule.read_number_exactly.1 _ _ hindex
  · let inner := ['i', 'f', '/', 'a', '/', ' ', '\x7b']
    let outer := ['i', 'f', '/', 'é', '/', '\x7b', 'p', 'r', 'i', 'n', 't', ';']
    let u := ['p'] ++ ':' :: (['0', '1'] ++ '-' :: "9223372036854775808".toList)
    let rest := ['\x7d', '\x7d']
    have hrange : Numbered .block u rest (.error 4) :=
      .range (.inl rfl) (by decide) (by decide) (by simp [rest, EndsNumber])
    have houter : Reader.Reaches (outer ++ (inner ++ (u ++ rest))) _ := .opens (.ifMatch rfl rfl)
    have hprint := Reader.rule_printAll .block (s := ';' :: (inner ++ (u ++ rest)))
      (by simp [Reader.Selects]) (fun c hc => by cases hc; decide)
    have hinner := (houter.next hprint).inside (.ifMatch rfl rfl)
    have hs : "if/é/\x7bprint;if/a/ \x7bp:01-9223372036854775808\x7d\x7d".toList =
        (outer ++ inner) ++ (u ++ rest) := by simp [outer, inner, u, rest]
    exact Rule.read_number_exactly.2 _ (outer ++ inner) u rest _ hs ⟨_, hinner, rfl⟩ hrange

end Linewise
