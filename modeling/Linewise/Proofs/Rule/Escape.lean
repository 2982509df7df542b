import Linewise.Rule.Reader

/-!
Texts with escapes. A pattern or a replacement is read in pairs of a backslash and the character
after it, and written with a backslash before each slash. Reading text takes back exactly what
writing puts there; only a lone backslash at the end of the input is left without a partner.
-/
namespace Linewise

/-- Text that is read from left to right, where each backslash takes the character after it as its
partner. Which characters may stand alone and which may be partners is given. -/
inductive Paired (alone partner : Char → Prop) : List Char → Prop
  | nil : Paired alone partner []
  | alone {c : Char} {s : List Char} :
      c ≠ '\\' → alone c → Paired alone partner s → Paired alone partner (c :: s)
  | pair {c : Char} {s : List Char} :
      partner c → Paired alone partner s → Paired alone partner ('\\' :: c :: s)

theorem Paired.mono {alone partner alone' partner' : Char → Prop} {t : List Char}
    (h : Paired alone partner t) (ha : ∀ c, alone c → alone' c)
    (hp : ∀ c, partner c → partner' c) : Paired alone' partner' t := by
  induction h with
  | nil => exact .nil
  | alone hc h _ ih => exact .alone hc (ha _ h) ih
  | pair h _ ih => exact .pair (hp _ h) ih

section

variable {alone partner alone' partner' : Char → Prop} {c : Char} {t : List Char}

theorem Paired.of_alone (h : Paired alone partner (c :: t)) (hc : c ≠ '\\') :
    alone c ∧ Paired alone partner t := by
  cases h with
  | alone _ ha ht => exact ⟨ha, ht⟩
  | pair => exact absurd rfl hc

theorem Paired.of_pair (h : Paired alone partner ('\\' :: c :: t)) :
    partner c ∧ Paired alone partner t := by
  cases h with
  | alone hc => exact absurd rfl hc
  | pair hp ht => exact ⟨hp, ht⟩

/-- Two readings of one text agree on its pairs. -/
theorem Paired.and (h : Paired alone partner t) (h' : Paired alone' partner' t) :
    Paired (fun c => alone c ∧ alone' c) (fun c => partner c ∧ partner' c) t := by
  induction h with
  | nil => exact .nil
  | alone hc ha _ ih => exact .alone hc ⟨ha, (h'.of_alone hc).1⟩ (ih (h'.of_alone hc).2)
  | pair hp _ ih => exact .pair ⟨hp, h'.of_pair.1⟩ (ih h'.of_pair.2)

theorem Paired.append {t' : List Char} (h : Paired alone partner t)
    (h' : Paired alone partner t') : Paired alone partner (t ++ t') := by
  induction h with
  | nil => exact h'
  | alone hc ha _ ih => exact .alone hc ha ih
  | pair hp _ ih => exact .pair hp ih

theorem Paired.not_append_backslash (h : Paired alone partner t) :
    ¬ Paired alone' partner' (t ++ ['\\']) := by
  induction h with
  | nil =>
      rintro (_ | ⟨hc, _, _⟩)
      exact hc rfl
  | alone hc _ _ ih => exact fun h' => ih (h'.of_alone hc).2
  | pair _ _ ih => exact fun h' => ih h'.of_pair.2

end

/-- A text with a backslash before each slash. -/
def escapeSlashes (s : List Char) : List Char :=
  s.flatMap fun c => if c = '/' then ['\\', '/'] else [c]

@[simp] theorem escapeSlashes_nil : escapeSlashes [] = [] := rfl

theorem escapeSlashes_cons (c : Char) (s : List Char) :
    escapeSlashes (c :: s) = (if c = '/' then ['\\', '/'] else [c]) ++ escapeSlashes s :=
  List.flatMap_cons

@[simp] theorem escapeSlashes_append (s t : List Char) :
    escapeSlashes (s ++ t) = escapeSlashes s ++ escapeSlashes t :=
  List.flatMap_append

/-- Where free text may stop: at the end, at a slash, or at a character that ends it. -/
def StopsText (ends : Char → Bool) (rest : List Char) : Prop :=
  ∀ c ∈ rest.head?, c = '/' ∨ ends c = true

theorem stopsText_slash (ends : Char → Bool) (rest : List Char) : StopsText ends ('/' :: rest) := by
  intro c hc
  cases hc
  exact .inl rfl

/-- Text that can be written where the given characters end it. -/
abbrev Escapable (ends : Char → Bool) : List Char → Prop :=
  Paired (fun c => ends c = false) (· ≠ '/')

/-- Text of the given kind and one last backslash without a partner. -/
def Dangling (P : List Char → Prop) (t : List Char) : Prop := ∃ s, P s ∧ t = s ++ ['\\']

/-- How reading text comes to an end: where text may stop, or after a backslash that is left without
a partner because the input ends. -/
def TextEnds (ends : Char → Bool) (t rest : List Char) : Prop :=
  Escapable ends t ∧ StopsText ends rest ∨ Dangling (Escapable ends) t ∧ rest = []

section

variable {ends : Char → Bool} {t rest : List Char}

theorem TextEnds.alone {c : Char} (h : TextEnds ends t rest) (hc : c ≠ '\\')
    (ha : ends c = false) : TextEnds ends (c :: t) rest := by
  obtain ⟨ht, hr⟩ | ⟨⟨s, hs, rfl⟩, hr⟩ := h
  · exact .inl ⟨.alone hc ha ht, hr⟩
  · exact .inr ⟨⟨c :: s, .alone hc ha hs, rfl⟩, hr⟩

theorem TextEnds.pair {c : Char} (h : TextEnds ends t rest) (hc : c ≠ '/') :
    TextEnds ends ('\\' :: c :: t) rest := by
  obtain ⟨ht, hr⟩ | ⟨⟨s, hs, rfl⟩, hr⟩ := h
  · exact .inl ⟨.pair hc ht, hr⟩
  · exact .inr ⟨⟨'\\' :: c :: s, .pair hc hs, rfl⟩, hr⟩

end

namespace Reader

variable {ends : Char → Bool} {t rest s : List Char}

theorem text_cons {c : Char} (hc : c ≠ '\\') :
    text ends (c :: s) =
      if c = '/' ∨ ends c then ([], c :: s) else (c :: (text ends s).1, (text ends s).2) := by
  rw [text]
  · exact fun h _ => hc h
  · exact fun _ _ h _ => hc h

theorem text_pair (c : Char) :
    text ends ('\\' :: c :: s) =
      (if c = '/' then '/' :: (text ends s).1 else '\\' :: c :: (text ends s).1,
        (text ends s).2) := by
  rw [text]

theorem text_of_stopsText (h : StopsText ends rest) (hb : ends '\\' = false) :
    text ends rest = ([], rest) := by
  cases rest with
  | nil => rfl
  | cons c s =>
      have hc : c = '/' ∨ ends c = true := h c rfl
      have hne : c ≠ '\\' := by
        rintro rfl
        simp [hb] at hc
      rw [text_cons hne, if_pos hc]

theorem text_escapeSlashes_append (ht : Escapable ends t) (rest : List Char) :
    text ends (escapeSlashes t ++ rest) = (t ++ (text ends rest).1, (text ends rest).2) := by
  induction ht with
  | nil => rfl
  | @alone c s hc ha _ ih =>
      rw [escapeSlashes_cons, List.append_assoc]
      by_cases h : c = '/'
      · simp [h, text_pair, ih]
      · simp [h, text_cons hc, ha, ih]
  | @pair c s hc _ ih =>
      have hs : escapeSlashes ('\\' :: c :: s) = '\\' :: c :: escapeSlashes s := by
        simp [escapeSlashes_cons, hc]
      simp [hs, text_pair, hc, ih]

/-- Written text is read up to the place where it stops. -/
theorem text_escapeSlashes (ht : Escapable ends t) (hr : StopsText ends rest)
    (hb : ends '\\' = false) : text ends (escapeSlashes t ++ rest) = (t, rest) := by
  rw [text_escapeSlashes_append ht, text_of_stopsText hr hb, List.append_nil]

theorem text_escapeSlashes_backslash (ht : Escapable ends t) :
    text ends (escapeSlashes t ++ ['\\']) = (t ++ ['\\'], []) := by
  rw [text_escapeSlashes_append ht, text]

/-- What reading text has taken is what writing the result gives. -/
theorem eq_escapeSlashes_of_text (hs : ends '/' = false) (h : text ends s = (t, rest)) :
    s = escapeSlashes t ++ rest ∧ TextEnds ends t rest := by
  fun_induction text ends s generalizing t rest with
  | case1 =>
      cases h
      exact ⟨rfl, .inl ⟨.nil, by simp [StopsText]⟩⟩
  | case2 =>
      cases h
      exact ⟨rfl, .inr ⟨⟨[], .nil, rfl⟩, rfl⟩⟩
  | case3 c s t' rest' heq ih =>
      obtain ⟨rfl, ht⟩ := ih heq
      cases h
      by_cases hc : c = '/'
      · simpa [hc, escapeSlashes_cons] using ht.alone (by decide) hs
      · simpa [hc, escapeSlashes_cons] using ht.pair hc
  | case4 c s _ _ hc =>
      cases h
      refine ⟨rfl, .inl ⟨.nil, ?_⟩⟩
      intro d hd
      cases hd
      exact hc
  | case5 c s hc hp hstop t' rest' heq ih =>
      obtain ⟨rfl, ht⟩ := ih heq
      cases h
      obtain ⟨hslash, hends⟩ := not_or.1 hstop
      have hne : c ≠ '\\' := by
        rintro rfl
        cases hr : escapeSlashes t' ++ rest' with
        | nil => exact hc rfl hr
        | cons d s => exact hp d s rfl hr
      exact ⟨by simp [hslash, escapeSlashes_cons], ht.alone hne (by simpa using hends)⟩

end Reader

end Linewise
