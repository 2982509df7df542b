import Linewise.Proofs.Rule.Numeral
import Linewise.Proofs.Rule.Parts

/-!
What a status counts for. A status that is a number of 64 bits counts as that number, however it is
written, and any other one as its text. White space around it never counts. So two statuses are the
same just if they count for the same, and rules can tell two statuses apart only by the codes that
they name.
-/
namespace Linewise

namespace Status

/-- A number of 64 bits as a status may write it: digits after any zeros, with or without a sign.
Zero may have either sign. -/
def IsNumber (n : Int) (s : List Char) : Prop :=
  (IsSignedNumeral n s ∨ 0 ≤ n ∧ ∃ d, s = '+' :: d ∧ IsNumeral n.natAbs d) ∧
    -9223372036854775808 ≤ n ∧ n ≤ 9223372036854775807

theorem magnitude?_eq_some_iff {d : List Char} {m : Nat} :
    magnitude? d = some m ↔ IsNumeral m d := by
  have hvalue : d.foldl (fun n c => 10 * n + (c.toNat - '0'.toNat)) 0 = Nat.ofDigitChars 10 d 0 :=
    Nat.ofDigitChars_eq_foldl.symm
  rw [magnitude?, hvalue]
  constructor
  · intro h
    split at h
    · rename_i hd
      cases h
      exact isNumeral_ofDigitChars hd.1 (List.all_eq_true.1 hd.2)
    · cases h
  · intro h
    rw [if_pos ⟨h.ne_nil, List.all_eq_true.2 h.isDigit⟩, h.ofDigitChars]

theorem not_isNumeral_cons {c : Char} {d : List Char} {m : Nat} (hc : c.isDigit = false) :
    ¬ IsNumeral m (c :: d) := by
  intro h
  rw [h.isDigit c List.mem_cons_self] at hc
  cases hc

/-- Digits as they are read behind a sign, which `f` puts on. -/
theorem map_magnitude?_eq_some_iff {d : List Char} {f : Int → Int} {n : Int} :
    (do let m ← magnitude? d; pure (m : Int) : Option Int).map f = some n ↔
      ∃ m : Nat, IsNumeral m d ∧ f m = n := by
  simp only [← magnitude?_eq_some_iff]
  cases magnitude? d with
  | none => simp
  | some m => simp

/-- A number is read just from the texts that write it. -/
theorem number?_eq_some_iff {s : List Char} {n : Int} : number? s = some n ↔ IsNumber n s := by
  simp only [number?, Option.filter_eq_some_iff, decide_eq_true_eq]
  refine and_congr_left fun _ => ?_
  split
  · rename_i d
    rw [map_magnitude?_eq_some_iff]
    constructor
    · rintro ⟨m, hm, rfl⟩
      exact .inl ⟨d, by simpa using hm, .inr ⟨by omega, rfl⟩⟩
    · rintro (⟨e, he, ⟨-, rfl⟩ | ⟨hn, hd⟩⟩ | ⟨-, e, hd, -⟩)
      · exact absurd he (not_isNumeral_cons rfl)
      · cases hd
        exact ⟨n.natAbs, he, by omega⟩
      · cases hd
  · rename_i d
    rw [map_magnitude?_eq_some_iff]
    constructor
    · rintro ⟨m, hm, rfl⟩
      exact .inr ⟨by omega, d, rfl, by simpa using hm⟩
    · rintro (⟨e, he, ⟨-, rfl⟩ | ⟨-, hd⟩⟩ | ⟨hn, e, hd, he⟩)
      · exact absurd he (not_isNumeral_cons rfl)
      · cases hd
      · cases hd
        exact ⟨n.natAbs, he, by omega⟩
  · rename_i hminus hplus
    rw [map_magnitude?_eq_some_iff]
    constructor
    · rintro ⟨m, hm, rfl⟩
      exact .inl ⟨s, by simpa using hm, .inl ⟨by omega, rfl⟩⟩
    · rintro (⟨e, he, ⟨hn, rfl⟩ | ⟨-, rfl⟩⟩ | ⟨-, e, rfl, -⟩)
      · exact ⟨n.natAbs, he, by omega⟩
      · exact absurd rfl (hminus e)
      · exact absurd rfl (hplus e)

/-- What a status counts as: the number that it is, or else its text without white space around. -/
def value (s : String) : Int ⊕ List Char :=
  match number? (trimWhite s) with
  | some n => .inl n
  | none => .inr (trimWhite s)

theorem same_iff {a b : String} :
    same a b = true ↔ trimWhite a = trimWhite b ∨
      ∃ n, number? (trimWhite a) = some n ∧ number? (trimWhite b) = some n := by
  simp only [same, Bool.or_eq_true, beq_iff_eq]
  refine or_congr_right ?_
  cases number? (trimWhite a) with
  | none => simp
  | some m =>
      cases number? (trimWhite b) with
      | none => simp
      | some n =>
          constructor
          · intro h
            exact ⟨n, by rw [beq_iff_eq.1 h], rfl⟩
          · rintro ⟨k, hm, hn⟩
            rw [Option.some.inj hm, Option.some.inj hn]
            exact beq_self_eq_true k

/-- Neither side of a comparison decides how the other one counts. -/
theorem same_iff_value_eq {a b : String} : same a b = true ↔ value a = value b := by
  rw [same_iff, value, value]
  constructor
  · rintro (h | ⟨n, ha, hb⟩)
    · rw [h]
    · rw [ha, hb]
  · intro h
    cases ha : number? (trimWhite a) with
    | some m =>
        cases hb : number? (trimWhite b) with
        | some n =>
            rw [ha, hb] at h
            cases h
            exact .inr ⟨m, rfl, rfl⟩
        | none =>
            rw [ha, hb] at h
            cases h
    | none =>
        cases hb : number? (trimWhite b) with
        | some n =>
            rw [ha, hb] at h
            cases h
        | none =>
            rw [ha, hb] at h
            exact .inl (Sum.inr.inj h)

theorem same_equivalence : Equivalence fun a b => same a b = true where
  refl _ := same_iff_value_eq.2 rfl
  symm h := same_iff_value_eq.2 (same_iff_value_eq.1 h).symm
  trans h h' := same_iff_value_eq.2 ((same_iff_value_eq.1 h).trans (same_iff_value_eq.1 h'))

theorem holds_congr {a b : String} (h : same a b = true) (code : String) :
    holds (some a) code = holds (some b) code := by
  rw [same_iff_value_eq] at h
  simp only [holds, Option.any_some]
  rw [Bool.eq_iff_iff, same_iff_value_eq, same_iff_value_eq, h]

end Status

namespace Rule

/-- The code that a rule compares the status with. -/
def code? {π : Type} : Rule π → Option String
  | .onStatus code _ _ => some code
  | _ => none

theorem code?_compile (r : Rule String) : r.compile.1.code? = r.code? := by
  cases r <;> rfl

variable {status status' : Option String} {rs : List (Rule Pattern)}

theorem runAll_congr (h : ∀ r ∈ rs, ∀ lines, r.run status lines = r.run status' lines)
    (lines : Document) : runAll status rs lines = runAll status' rs lines := by
  induction rs generalizing lines with
  | nil => rfl
  | cons r rs ih =>
      obtain ⟨hr, hrs⟩ := List.forall_mem_cons.1 h
      rw [runAll, runAll, hr, ih hrs]

/-- A rule runs alike with statuses that no code in it tells apart. -/
theorem run_congr {r : Rule Pattern} {place : Place}
    (h : ∀ q ∈ r.parts place, ∀ code ∈ q.rule.code?,
      Status.holds status code = Status.holds status' code) (lines : Document) :
    r.run status lines = r.run status' lines := by
  induction r generalizing place lines with
  | substitute _ _ _ | setLine _ _ | keepMatching _ | keepLines _ | keepAll | arrange _
  | idle => rfl
  | ifMatch p body ih =>
      obtain ⟨-, hrules⟩ := forall_mem_parts_ifMatch.1 h
      have hbody := runAll_congr fun r hr => ih r hr (hrules r hr)
      simp only [run, hbody]
  | between start stop body ih =>
      obtain ⟨-, hrules⟩ := forall_mem_parts_between.1 h
      have hbody := runAll_congr fun r hr => ih r hr (hrules r hr)
      simp only [run, hbody]
  | onStatus code body otherwise ih ih' =>
      obtain ⟨hcode, hbody, hotherwise⟩ := forall_mem_parts_onStatus.1 h
      rw [run, run, hcode code rfl]
      split
      · exact runAll_congr (fun r hr => ih r hr (hbody r hr)) lines
      · exact runAll_congr (fun r hr => ih' r hr (hotherwise r hr)) lines

theorem runAll_compileAll_congr {rules : List (Rule String)}
    (h : ∀ q ∈ allParts .document rules, ∀ code ∈ q.rule.code?,
      Status.holds status code = Status.holds status' code) (lines : Document) :
    runAll status (compileAll rules).1 lines = runAll status' (compileAll rules).1 lines := by
  have hcompiled : ∀ q ∈ allParts .document (compileAll rules).1, ∀ code ∈ q.rule.code?,
      Status.holds status code = Status.holds status' code := by
    rw [forall_mem_allParts_compileAll]
    simpa only [code?_compile] using h
  rw [forall_mem_allParts] at hcompiled
  exact runAll_congr (fun r hr => run_congr (hcompiled r hr)) lines

end Rule

/-- Two statuses are the same just if they have the same text within white space or write the same
number of 64 bits. Rules do the same with them. No status does what any status does that none of the
codes names. -/
theorem Rule.runAll_of_same_status :
    (Equivalence fun a b => Status.same a b = true) ∧
      (∀ a b, Status.same a b = true ↔ trimWhite a = trimWhite b ∨
        ∃ n, Status.IsNumber n (trimWhite a) ∧ Status.IsNumber n (trimWhite b)) ∧
      ∀ (rules : List (Rule String)) (lines : Document),
        let output (status : Option String) := Rule.runAll status (Rule.compileAll rules).1 lines
        (∀ a b, Status.same a b = true → output (some a) = output (some b)) ∧
          ∀ a, (∀ q ∈ Rule.allParts .document rules, ∀ code ∈ q.rule.code?,
            Status.same a code = false) → output none = output (some a) := by
  refine ⟨Status.same_equivalence, ?_, ?_⟩
  · intro a b
    simp only [← Status.number?_eq_some_iff]
    exact Status.same_iff
  · intro rules lines output
    constructor
    · intro a b h
      exact Rule.runAll_compileAll_congr (fun _ _ code _ => Status.holds_congr h code) lines
    · intro a h
      refine Rule.runAll_compileAll_congr (fun q hq code hcode => ?_) lines
      exact (h q hq code hcode).symm

/-- A number that does not fit in 64 bits counts as a text, zeros in front included. -/
theorem Rule.runAll_of_same_status_zeros :
    let rules : List (Rule String) :=
      [.ifMatch "a" [.onStatus "7" [.setLine 1 "b"] [.idle]],
        .onStatus "09223372036854775808" [.arrange .join] [.keepLines (.index (-1))]]
    let output (status : Option String) := Rule.runAll status (Rule.compileAll rules).1 ["a", "c"]
    Status.same "+007" " 7\n" = true ∧ output (some "+007") = output (some " 7\n") ∧
      Status.same "9223372036854775808" "09223372036854775808" = false ∧
      (∀ q ∈ Rule.allParts .document rules, ∀ code ∈ q.rule.code?,
        Status.same "9223372036854775808" code = false) ∧
      output none = output (some "9223372036854775808") := by
  intro rules output
  have hsame : Status.same "+007" " 7\n" = true := by decide
  have hother : ∀ q ∈ Rule.allParts .document rules, ∀ code ∈ q.rule.code?,
      Status.same "9223372036854775808" code = false := by decide
  obtain ⟨-, -, hruns⟩ := Rule.runAll_of_same_status
  obtain ⟨hsames, hnone⟩ := hruns rules ["a", "c"]
  exact ⟨hsame, hsames "+007" " 7\n" hsame, by decide, hother, hnone "9223372036854775808" hother⟩

end Linewise
