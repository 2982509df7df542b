import Linewise.Proofs.Rule.LineCount

/-!
Lines by their positions. A choice of lines stands for indices that ascend one by one, and the rules
that choose or replace lines touch the lines at these indices and no other. Positions from the end
are positions from the start of the reversed document. Signed numbers of 64 bits are enough for all
of this: no result on the way falls outside them.
-/
namespace Linewise

/-- Whether a number is a signed number of 64 bits. -/
def IsWord (n : Int) : Prop := -(maxLineNumber + 1) ≤ n ∧ n ≤ maxLineNumber

instance : DecidablePred IsWord := fun _ => inferInstanceAs (Decidable (_ ∧ _))

/-- A result of arithmetic in 64 bits, unless it overflows. -/
def word? (n : Int) : Option Int := if IsWord n then some n else none

/-- The index of a position, if no step on the way overflows. -/
def resolvePosition? (n : Int) (len : Nat) : Option (Option Nat) := do
  let last ← word? len
  let index ← word? (if n < 0 then last + n else n - 1)
  return if n = 0 ∨ index < 0 ∨ last ≤ index then none else some index.toNat

/-- The positions from one to another, in ascending order. -/
def positions (first last : Int) : List Int :=
  (List.range (last - first + 1).toNat).map fun (k : Nat) => first + k

/-- The indices of a choice, if no step on the way overflows. -/
def LineSpec.resolve? (spec : LineSpec) (len : Nat) : Option (List Nat) :=
  match spec with
  | index n => (resolvePosition? n len).map Option.toList
  | range a b => do
      let last ← word? len
      if min b last < max a 1 then return []
      else (positions (max a 1) (min b last)).mapM fun p => (word? (p - 1)).map Int.toNat

/-- Whether the numbers of a choice are numbers of 64 bits. -/
def LineSpec.InWords : LineSpec → Prop
  | index n => IsWord n
  | range a b => IsWord a ∧ IsWord b

theorem word?_of_isWord {n : Int} (h : IsWord n) : word? n = some n := if_pos h

theorem isWord_natCast {len : Nat} (h : len ≤ maxLineNumber) : IsWord len := by
  unfold IsWord
  omega

theorem mapM_eq_some_map {α β : Type} {f : α → Option β} {g : α → β} {l : List α}
    (h : ∀ a ∈ l, f a = some (g a)) : l.mapM f = some (l.map g) := by
  induction l with
  | nil => rfl
  | cons a l ih =>
      obtain ⟨ha, hl⟩ := List.forall_mem_cons.1 h
      rw [List.mapM_cons, ha, ih hl]
      rfl

section

variable {len : Nat} (hlen : len ≤ maxLineNumber)
include hlen

theorem resolvePosition?_eq {n : Int} (hn : IsWord n) :
    resolvePosition? n len = some (resolvePosition n len) := by
  have hindex : IsWord (if n < 0 then len + n else n - 1) := by
    obtain ⟨hleast, hmost⟩ := hn
    split
    · exact ⟨by omega, by omega⟩
    · exact ⟨by omega, by omega⟩
  rw [resolvePosition?, word?_of_isWord (isWord_natCast hlen), Option.bind_eq_bind,
    Option.bind_some, word?_of_isWord hindex, Option.bind_some]
  rfl

theorem map_word?_of_mem_positions {first last p : Int} (hfirst : 1 ≤ first) (hlast : last ≤ len)
    (hp : p ∈ positions first last) :
    (word? (p - 1)).map Int.toNat = some (p - 1).toNat := by
  obtain ⟨k, hk, rfl⟩ := List.mem_map.1 hp
  rw [List.mem_range] at hk
  rw [word?_of_isWord ⟨by omega, by omega⟩, Option.map_some]

theorem LineSpec.resolve?_eq {spec : LineSpec} (hspec : spec.InWords) :
    spec.resolve? len = some (spec.resolve len) := by
  cases spec with
  | index n => rw [resolve?, resolvePosition?_eq hlen hspec, Option.map_some, resolve]
  | range a b =>
      rw [resolve?, word?_of_isWord (isWord_natCast hlen), Option.bind_eq_bind, Option.bind_some]
      simp only [resolve]
      split
      · rfl
      · rw [mapM_eq_some_map fun p hp => map_word?_of_mem_positions hlen (Int.le_max_right a 1)
            (Int.min_le_right b len) hp,
          positions, List.map_map, List.range'_eq_map_range]
        congr 1
        apply List.map_congr_left
        intro k _
        rw [Function.comp_apply]
        omega

end

theorem resolvePosition_eq (n : Int) (len : Nat) :
    resolvePosition n len =
      if 1 ≤ n ∧ n ≤ len then some (n - 1).toNat
      else if -len ≤ n ∧ n ≤ -1 then some (len + n).toNat else none := by
  unfold resolvePosition
  by_cases hfront : 1 ≤ n ∧ n ≤ len
  · rw [if_pos hfront]
    dsimp only
    rw [if_neg (show ¬ n < 0 by omega), if_neg (by omega)]
  · rw [if_neg hfront]
    by_cases hback : -len ≤ n ∧ n ≤ -1
    · rw [if_pos hback]
      dsimp only
      rw [if_pos (show n < 0 by omega), if_neg (by omega)]
    · rw [if_neg hback]
      dsimp only
      split
      · rw [if_pos (by omega)]
      · rw [if_pos (by omega)]

theorem lt_of_resolvePosition {n : Int} {len i : Nat} (h : resolvePosition n len = some i) :
    i < len := by
  rw [resolvePosition_eq] at h
  split at h
  · cases h
    omega
  · split at h
    · cases h
      omega
    · cases h

/-- A position from the end is the position from the start in the other direction. -/
theorem resolvePosition_neg (n : Int) (len : Nat) :
    resolvePosition (-n) len = (resolvePosition n len).map fun i => len - 1 - i := by
  rw [resolvePosition_eq, resolvePosition_eq]
  by_cases hfront : 1 ≤ n ∧ n ≤ len
  · rw [if_neg (by omega), if_pos (by omega), if_pos hfront, Option.map_some]
    congr 1
    omega
  · by_cases hback : -len ≤ n ∧ n ≤ -1
    · rw [if_pos (by omega), if_neg hfront, if_pos hback, Option.map_some]
      congr 1
      omega
    · rw [if_neg (by omega), if_neg (by omega), if_neg hfront, if_neg hback, Option.map_none]

namespace LineSpec

/-- The indices of a choice ascend one by one, and all of them are on the document. -/
theorem exists_resolve_eq_range' (spec : LineSpec) (len : Nat) :
    ∃ first count, spec.resolve len = List.range' first count ∧ first + count ≤ len := by
  cases spec with
  | index n =>
      rw [resolve]
      cases h : resolvePosition n len with
      | none => exact ⟨0, 0, rfl, Nat.zero_le len⟩
      | some i => exact ⟨i, 1, rfl, lt_of_resolvePosition h⟩
  | range a b =>
      simp only [resolve]
      split
      · exact ⟨0, 0, rfl, Nat.zero_le len⟩
      · exact ⟨_, _, rfl, by omega⟩

theorem lt_of_mem_resolve {spec : LineSpec} {len i : Nat} (h : i ∈ spec.resolve len) : i < len := by
  obtain ⟨first, count, hresolve, hle⟩ := spec.exists_resolve_eq_range' len
  rw [hresolve, List.mem_range'_1] at h
  omega

theorem mem_resolve_range {a b : Int} {len i : Nat} :
    i ∈ (range a b).resolve len ↔ max a 1 ≤ i + 1 ∧ i + 1 ≤ min b (len : Int) := by
  simp only [resolve]
  split
  · simp only [List.not_mem_nil, false_iff]
    omega
  · rw [List.mem_range'_1]
    omega

theorem select_of_resolve {spec : LineSpec} {lines : Document} {first count : Nat}
    (h : spec.resolve lines.length = List.range' first count) :
    spec.select lines = (lines.drop first).take count := by
  rw [select, h]
  cases count with
  | zero => rfl
  | succ count => simp [List.range'_succ]

/-- The lines of a choice are those at its indices, in that order. -/
theorem map_some_select (spec : LineSpec) (lines : Document) :
    (spec.select lines).map some = (spec.resolve lines.length).map fun i => lines[i]? := by
  obtain ⟨first, count, hresolve, hle⟩ := spec.exists_resolve_eq_range' lines.length
  rw [select_of_resolve hresolve, hresolve]
  apply List.ext_getElem
  · simp
    omega
  · intro k hk _
    have hcount : k < count := by
      simp at hk
      omega
    simp [List.getElem?_eq_getElem (show first + k < lines.length by omega)]

theorem select_index (n : Int) (lines : Document) :
    (index n).select lines = ((resolvePosition n lines.length).bind fun i => lines[i]?).toList := by
  have hselect := map_some_select (index n) lines
  rw [resolve] at hselect
  cases h : resolvePosition n lines.length with
  | none =>
      rw [h] at hselect
      exact List.map_eq_nil_iff.1 hselect
  | some i =>
      have hi := List.getElem?_eq_getElem (lt_of_resolvePosition h)
      rw [h, Option.toList_some, List.map_singleton, hi, ← List.map_singleton (f := some)] at hselect
      rw [Option.bind_some, hi]
      exact List.map_inj_right (fun _ _ => Option.some.inj) |>.1 hselect

/-- The line at a position from the end is the one at the same position of the reversed document. -/
theorem select_neg (n : Int) (lines : Document) :
    (index (-n)).select lines = (index n).select lines.reverse := by
  rw [select_index, select_index, resolvePosition_neg, List.length_reverse]
  cases h : resolvePosition n lines.length with
  | none => rfl
  | some i =>
      rw [Option.map_some, Option.bind_some, Option.bind_some,
        List.getElem?_reverse (lt_of_resolvePosition h)]

end LineSpec

namespace Document

theorem getElem?_replaceLine (n : Int) (text : String) (lines : Document) (i : Nat) :
    (Document.replaceLine n text lines)[i]? =
      if resolvePosition n lines.length = some i then some text else lines[i]? := by
  rw [Document.replaceLine]
  cases h : resolvePosition n lines.length with
  | none => rfl
  | some j =>
      simp only [List.getElem?_set, if_pos (lt_of_resolvePosition h), Option.some.injEq]

theorem replaceLine_neg (n : Int) (text : String) (lines : Document) :
    Document.replaceLine (-n) text lines = (Document.replaceLine n text lines.reverse).reverse := by
  apply List.ext_getElem?
  intro i
  by_cases hi : i < lines.length
  · have hlength : (Document.replaceLine n text lines.reverse).length = lines.length := by
      rw [Document.length_replaceLine, List.length_reverse]
    have hback : lines.length - 1 - (lines.length - 1 - i) = i := by omega
    rw [List.getElem?_reverse (by omega), hlength, getElem?_replaceLine, getElem?_replaceLine,
      resolvePosition_neg, List.length_reverse, List.getElem?_reverse (by omega), hback]
    cases h : resolvePosition n lines.length with
    | none => rfl
    | some j =>
        have := lt_of_resolvePosition h
        simp only [Option.map_some, Option.some.injEq]
        congr 1
        rw [eq_iff_iff]
        omega
  · rw [List.getElem?_eq_none, List.getElem?_eq_none]
    · rw [List.length_reverse, Document.length_replaceLine, List.length_reverse]
      omega
    · rw [Document.length_replaceLine]
      omega

end Document

/-- No arithmetic in 64 bits overflows and no index lies outside the document. A range stands for
all positions in it that exist, rules act on the addressed lines alone, and positions from the end
act as those from the start on the reversed document. -/
theorem Rule.run_addresses_lines (lines : Document) (status : Option String)
    (hlen : lines.length ≤ maxLineNumber) :
    let len := lines.length
    let output (r : Rule Pattern) := r.run status lines
    (∀ n, IsWord n → resolvePosition? n len = some (resolvePosition n len)) ∧
      (∀ spec : LineSpec, spec.InWords → spec.resolve? len = some (spec.resolve len)) ∧
      (∀ spec : LineSpec, ∀ i ∈ spec.resolve len, i < len) ∧
      (∀ n, (LineSpec.index n).resolve len = (resolvePosition n len).toList ∧
        resolvePosition n len =
          if 1 ≤ n ∧ n ≤ len then some (n - 1).toNat
          else if -len ≤ n ∧ n ≤ -1 then some (len + n).toNat else none) ∧
      (∀ a b, (∃ first count, (LineSpec.range a b).resolve len = List.range' first count) ∧
        ∀ i : Nat, i ∈ (LineSpec.range a b).resolve len ↔
          max a 1 ≤ i + 1 ∧ i + 1 ≤ min b (len : Int)) ∧
      (∀ spec, (output (.keepLines spec)).map some = (spec.resolve len).map fun i => lines[i]?) ∧
      (∀ n text (i : Nat), (output (.setLine n text))[i]? =
        if resolvePosition n len = some i then some text else lines[i]?) ∧
      (∀ n, output (.keepLines (.index (-n))) =
        (Rule.keepLines (.index n)).run status lines.reverse) ∧
      ∀ n text, output (.setLine (-n) text) =
        Rule.runAll status [.arrange .reverse, .setLine n text, .arrange .reverse] lines := by
  intro len output
  refine ⟨?_, ?_, ?_, ?_, ?_, ?_, ?_, ?_, ?_⟩
  · intro n hn
    exact resolvePosition?_eq hlen hn
  · intro spec hspec
    exact LineSpec.resolve?_eq hlen hspec
  · intro spec i hi
    exact LineSpec.lt_of_mem_resolve hi
  · intro n
    exact ⟨rfl, resolvePosition_eq n len⟩
  · intro a b
    obtain ⟨first, count, hresolve, -⟩ := (LineSpec.range a b).exists_resolve_eq_range' len
    exact ⟨⟨first, count, hresolve⟩, fun i => LineSpec.mem_resolve_range⟩
  · intro spec
    exact spec.map_some_select lines
  · intro n text i
    exact Document.getElem?_replaceLine n text lines i
  · intro n
    exact LineSpec.select_neg n lines
  · intro n text
    exact Document.replaceLine_neg n text lines

/-- The least number of 64 bits is no position of three lines, and a range from it is cut to those
that are. -/
theorem Rule.run_addresses_lines_least :
    let lines : Document := ["a", "b", "c"]
    let least : Int := -9223372036854775808
    lines.length ≤ maxLineNumber ∧
      IsWord least ∧ resolvePosition? least 3 = some none ∧
      (LineSpec.range least (-least - 1)).InWords ∧
      (LineSpec.range least (-least - 1)).resolve? 3 = some [0, 1, 2] ∧
      2 ∈ (LineSpec.range least (-least - 1)).resolve 3 ∧ 2 < 3 ∧
      (Rule.setLine (-3) "x").run none lines = ["x", "b", "c"] := by
  intro lines least
  have hlen : lines.length ≤ maxLineNumber := by decide
  obtain ⟨hposition, hresolve, hlt, -, -, -, -, -, hback⟩ :=
    Rule.run_addresses_lines lines none hlen
  have hleast : IsWord least := by decide
  have hrange : (LineSpec.range least (-least - 1)).InWords := ⟨hleast, by decide⟩
  have hmem : 2 ∈ (LineSpec.range least (-least - 1)).resolve 3 := by decide
  exact ⟨hlen, hleast, hposition least hleast, hrange, hresolve _ hrange, hmem, hlt _ 2 hmem,
    hback 3 "x"⟩

end Linewise
