import Linewise.Rule.Run
import Mathlib.Data.List.DropRight

/-!
Sections without a scan. Whether a line is in a section can be told from the lines before it at
once: the last of them that matches just one of the two patterns settles the side that it leaves the
scan on, and each line after it that matches both changes the side.
-/
namespace Linewise

section

variable (starts stops : String → Bool)

/-- Whether a line matches one of the patterns and not the other. -/
def settlesSide (line : String) : Bool := starts line != stops line

/-- Whether the line after the given ones is in a section. -/
def inSection (before : Document) : Bool :=
  (before.filter (settlesSide starts stops)).getLast?.any starts ^^
    ((before.rtakeWhile fun line => !settlesSide starts stops line).countP
      (fun line => starts line && stops line) % 2 == 1)

/-- What becomes of a line after the given ones. -/
def sectionPiece (inner : String → Document) (before : Document) (line : String) : Document :=
  if inSection starts stops before && !stops line then inner line else [line]

end

theorem odd_add_toNat (n : Nat) (b : Bool) : ((n + b.toNat) % 2 == 1) = ((n % 2 == 1) ^^ b) := by
  cases b with
  | false => simp
  | true => rcases Nat.mod_two_eq_zero_or_one n with h | h <;> simp [Nat.add_mod, h]

section

variable {starts stops : String → Bool} {before : Document} {line : String}

theorem inSection_concat_of_settlesSide (h : settlesSide starts stops line = true) :
    inSection starts stops (before ++ [line]) = starts line := by
  have hrest : (before ++ [line]).rtakeWhile (fun line => !settlesSide starts stops line) = [] := by
    simp [h]
  simp [inSection, hrest, List.filter_append, h]

theorem inSection_concat_of_not_settlesSide (h : settlesSide starts stops line = false) :
    inSection starts stops (before ++ [line]) = (inSection starts stops before ^^ starts line) := by
  have hstops : stops line = starts line := (bne_eq_false_iff_eq.1 h).symm
  have hlast : (before ++ [line]).filter (settlesSide starts stops) =
      before.filter (settlesSide starts stops) := by
    simp [List.filter_append, h]
  have hrest : (before ++ [line]).rtakeWhile (fun line => !settlesSide starts stops line) =
      before.rtakeWhile (fun line => !settlesSide starts stops line) ++ [line] := by
    simp [h]
  have hcount : ∀ lines : Document,
      (lines ++ [line]).countP (fun line => starts line && stops line) =
        lines.countP (fun line => starts line && stops line) + (starts line).toNat := by
    intro lines
    rw [List.countP_append, List.countP_singleton, hstops, Bool.and_self]
    cases starts line <;> rfl
  rw [inSection, inSection, hlast, hrest, hcount, odd_add_toNat, Bool.xor_assoc]

/-- A line outside goes in just if it starts a section, and one inside stays in just if it does not
end one. -/
theorem inSection_concat (before : Document) (line : String) :
    inSection starts stops (before ++ [line]) =
      if inSection starts stops before then !stops line else starts line := by
  cases h : settlesSide starts stops line with
  | true =>
      have hstarts : starts line = !stops line := Bool.eq_not.2 (bne_iff_ne.1 h)
      rw [inSection_concat_of_settlesSide h, hstarts, ite_self]
  | false =>
      have hstarts : starts line = stops line := bne_eq_false_iff_eq.1 h
      rw [inSection_concat_of_not_settlesSide h, hstarts]
      cases inSection starts stops before <;> simp

variable {inner : String → Document}

/-- The scan goes on after any lines as these say. -/
theorem inSections_cons (before : Document) (line : String) (lines : Document) :
    inSections starts stops inner (inSection starts stops before) (line :: lines) =
      sectionPiece starts stops inner before line ++
        inSections starts stops inner (inSection starts stops (before ++ [line])) lines := by
  rw [sectionPiece, inSection_concat]
  cases inSection starts stops before with
  | false => rfl
  | true =>
      rw [inSections]
      cases stops line <;> rfl

theorem inSections_append (before lines rest : Document) :
    inSections starts stops inner (inSection starts stops before) (lines ++ rest) =
      inSections starts stops inner (inSection starts stops before) lines ++
        inSections starts stops inner (inSection starts stops (before ++ lines)) rest := by
  induction lines generalizing before with
  | nil =>
      rw [List.append_nil]
      cases inSection starts stops before <;> rfl
  | cons line lines ih =>
      rw [List.cons_append, inSections_cons, inSections_cons, ih, List.append_assoc,
        List.append_assoc, List.singleton_append]

theorem inSections_eq_flatMap (before lines : Document) :
    inSections starts stops inner (inSection starts stops before) lines =
      lines.zipIdx.flatMap fun l =>
        sectionPiece starts stops inner (before ++ lines.take l.2) l.1 := by
  induction lines generalizing before with
  | nil => cases inSection starts stops before <;> rfl
  | cons line lines ih =>
      rw [inSections_cons, ih, List.zipIdx_cons', List.flatMap_cons, List.flatMap_map]
      simp only [Prod.map_fst, Prod.map_snd, id, List.take_zero, List.append_nil,
        List.take_succ_cons, List.append_assoc, List.singleton_append]

/-- A line that changes the side is none of those that the block runs on. -/
theorem sectionPiece_of_boundary
    (h : inSection starts stops (before ++ [line]) ≠ inSection starts stops before) :
    sectionPiece starts stops inner before line = [line] := by
  rw [inSection_concat] at h
  rw [sectionPiece]
  cases hside : inSection starts stops before with
  | false => rfl
  | true =>
      rw [hside, if_pos rfl] at h
      rw [Bool.true_and, if_neg h]

/-- A section that is not ended runs to the end. -/
theorem inSections_of_not_stops {rest : Document} (h : ∀ line ∈ rest, stops line = false) :
    inSections starts stops inner true rest = rest.flatMap inner := by
  induction rest with
  | nil => rfl
  | cons line lines ih =>
      obtain ⟨hline, hlines⟩ := List.forall_mem_cons.1 h
      rw [inSections, hline, if_neg Bool.false_ne_true, ih hlines, List.flatMap_cons]

/-- With one pattern for both ends, the lines that match it go in and out by turns. -/
theorem inSection_self (before : Document) :
    inSection starts starts before = (before.countP starts % 2 == 1) := by
  induction before using List.reverseRecOn with
  | nil => rfl
  | append_singleton before line ih =>
      have hside : settlesSide starts starts line = false := bne_self_eq_false _
      have hcount : (before ++ [line]).countP starts =
          before.countP starts + (starts line).toNat := by
        rw [List.countP_append, List.countP_singleton]
        cases starts line <;> rfl
      rw [inSection_concat_of_not_settlesSide hside, ih, hcount, odd_add_toNat]

theorem sectionPiece_self (h : starts line = true) :
    sectionPiece starts starts inner before line = [line] := by
  rw [sectionPiece, h, Bool.not_true, Bool.and_false, if_neg Bool.false_ne_true]

end

/-- A `between` leaves, one after the other, what its block leaves of each line inside a section and
every other line as it is. The lines that bound sections stay, and a section without an end reaches
to the end of the document. -/
theorem Rule.run_between_eq_flatMap (start stop : Pattern) (body : List (Rule Pattern))
    (status : Option String) :
    let starts := start.matchesLine
    let stops := stop.matchesLine
    let inner (line : String) := Rule.runAll status body [line]
    let output := (Rule.between start stop body).run status
    (∀ lines, output lines =
        lines.zipIdx.flatMap fun l => sectionPiece starts stops inner (lines.take l.2) l.1) ∧
      (∀ before line, inSection starts stops (before ++ [line]) ≠ inSection starts stops before →
        sectionPiece starts stops inner before line = [line]) ∧
      (∀ before rest, inSection starts stops before = true →
        (∀ line ∈ rest, stops line = false) →
          output (before ++ rest) = output before ++ rest.flatMap inner) ∧
      (start = stop → ∀ before,
        inSection starts stops before = (before.countP starts % 2 == 1) ∧
          ∀ line, starts line = true →
            sectionPiece starts stops inner before line = [line]) := by
  intro starts stops inner output
  refine ⟨?_, ?_, ?_, ?_⟩
  · intro lines
    exact inSections_eq_flatMap [] lines
  · intro before line h
    exact sectionPiece_of_boundary h
  · intro before rest hinside hrest
    have happend : output (before ++ rest) =
        output before ++ inSections starts stops inner (inSection starts stops before) rest :=
      inSections_append [] before rest
    rw [happend, hinside, inSections_of_not_stops hrest]
  · rintro rfl before
    exact ⟨inSection_self before, fun line hline => sectionPiece_self hline⟩

theorem Rule.run_between_eq_flatMap_fences :
    let fence := (Pattern.compileOrNever "=").1
    let body := (Rule.compileAll [.setLine 1 "x"]).1
    let output := (Rule.between fence fence body).run none
    let before : Document := ["=", "a", "=", "="]
    inSection fence.matchesLine fence.matchesLine before = true ∧
      (∀ line ∈ ["b", "c"], fence.matchesLine line = false) ∧
      output (before ++ ["b", "c"]) =
        output before ++ ["b", "c"].flatMap (fun line => Rule.runAll none body [line]) ∧
      fence.matchesLine "=" = true ∧
      sectionPiece fence.matchesLine fence.matchesLine
        (fun line => Rule.runAll none body [line]) before "=" = ["="] ∧
      output (before ++ ["b", "c"]) = ["=", "x", "=", "=", "x", "x"] := by
  intro fence body output before
  have hself : fence.matchesLine "=" = true := by
    simp only [fence]
    decide +kernel
  have hother : ["a", "b", "c"].map fence.matchesLine = [false, false, false] := by
    simp only [fence]
    decide +kernel
  simp only [List.map_cons, List.map_nil, List.cons.injEq, and_true] at hother
  obtain ⟨ha, hb, hc⟩ := hother
  have hinside : inSection fence.matchesLine fence.matchesLine before = true := by
    rw [inSection_self]
    simp [before, hself, ha]
  have hrest : ∀ line ∈ ["b", "c"], fence.matchesLine line = false := by
    simp [hb, hc]
  have hbody : ∀ line, Rule.runAll none body [line] = ["x"] := fun _ => rfl
  have houtput : output (before ++ ["b", "c"]) = ["=", "x", "=", "=", "x", "x"] := by
    simp [output, before, Rule.run, inSections, hself, ha, hb, hc, hbody]
  obtain ⟨-, -, hend, hfences⟩ := Rule.run_between_eq_flatMap fence fence body none
  exact ⟨hinside, hrest, hend before ["b", "c"] hinside hrest, hself,
    (hfences rfl before).2 "=" hself, houtput⟩

end Linewise
