import Linewise.Invocation
import Linewise.Proofs.Rule.Faults

/-!
Documents that are written and read again. Writing puts a line feed between neighbours and none at
the end; reading drops one carriage return before a line feed. So a document comes back unless its
last line is empty, which leaves a text that ends in a line feed, or an earlier line ends in a
carriage return.
-/
namespace Linewise

namespace Document

theorem linesFrom_cons {c : Char} (hc : c ≠ '\n') (line s : List Char) :
    linesFrom line (c :: s) = linesFrom (c :: line) s := by
  rw [linesFrom, if_neg hc]

theorem linesFrom_append {l : List Char} (h : '\n' ∉ l) (line s : List Char) :
    linesFrom line (l ++ '\n' :: s) = endedLine (l.reverse ++ line) :: linesFrom [] s := by
  induction l generalizing line with
  | nil => simp [linesFrom]
  | cons c l ih =>
      obtain ⟨hc, hl⟩ := List.ne_and_not_mem_of_not_mem_cons h
      rw [List.cons_append, linesFrom_cons (Ne.symm hc), ih hl]
      simp

theorem linesFrom_of_not_mem {l : List Char} (h : '\n' ∉ l) (line : List Char) :
    linesFrom line l = linesFrom (l.reverse ++ line) [] := by
  induction l generalizing line with
  | nil => rfl
  | cons c l ih =>
      obtain ⟨hc, hl⟩ := List.ne_and_not_mem_of_not_mem_cons h
      rw [linesFrom_cons (Ne.symm hc), ih hl]
      simp

theorem mem_of_mem_endedLine {c : Char} {line : List Char} (h : c ∈ endedLine line) :
    c ∈ line := by
  unfold endedLine at h
  split at h
  · exact List.mem_cons_of_mem _ (List.mem_reverse.1 h)
  · exact List.mem_reverse.1 h

theorem not_mem_of_mem_linesFrom {line s l : List Char} (hline : '\n' ∉ line)
    (h : l ∈ linesFrom line s) : '\n' ∉ l := by
  induction s generalizing line with
  | nil =>
      rw [linesFrom] at h
      split at h
      · cases h
      · rw [List.mem_singleton.1 h, List.mem_reverse]
        exact hline
  | cons c s ih =>
      rw [linesFrom] at h
      split at h
      · obtain rfl | h := List.mem_cons.1 h
        · exact fun hmem => hline (mem_of_mem_endedLine hmem)
        · exact ih List.not_mem_nil h
      · rename_i hc
        exact ih (List.not_mem_cons_of_ne_of_not_mem (Ne.symm hc) hline) h

/-- No line has a line feed of its own. -/
def Unbroken (d : Document) : Prop := ∀ line ∈ d, '\n' ∉ line.toList

theorem unbroken_ofText (t : String) : (ofText t).Unbroken := by
  intro line h
  obtain ⟨l, hl, rfl⟩ := List.mem_map.1 h
  rw [String.toList_ofList]
  exact not_mem_of_mem_linesFrom List.not_mem_nil hl

/-- A document whose text can be read again: its last line is not empty, and no line before it ends
in a carriage return. -/
def Reloads (d : Document) : Prop :=
  d.getLast? ≠ some "" ∧ ∀ line ∈ d.dropLast, line.toList.getLast? ≠ some '\r'

theorem endedLine_reverse_eq_iff (l : List Char) :
    endedLine l.reverse = l ↔ l.getLast? ≠ some '\r' := by
  rw [← List.head?_reverse]
  generalize hl : l.reverse = line
  obtain rfl : l = line.reverse := by rw [← hl, List.reverse_reverse]
  unfold endedLine
  split
  · rename_i rest
    simp
  · rename_i hline
    refine iff_of_true rfl fun hhead => ?_
    obtain ⟨rest, rfl⟩ := List.head?_eq_some_iff.1 hhead
    exact hline rest rfl

/-- What becomes of lines that are written and read again. -/
def reread : List (List Char) → List (List Char)
  | [] => []
  | [l] => if l.isEmpty then [] else [l]
  | l :: l' :: ls => endedLine l.reverse :: reread (l' :: ls)

theorem splitLines_intercalate {ls : List (List Char)} (h : ∀ l ∈ ls, '\n' ∉ l) :
    splitLines (['\n'].intercalate ls) = reread ls := by
  induction ls with
  | nil => rfl
  | cons l ls ih =>
      have hl := h l List.mem_cons_self
      cases ls with
      | nil =>
          simp [splitLines, linesFrom_of_not_mem hl, linesFrom, reread]
      | cons l' ls =>
          have hrest := ih fun l hmem => h l (List.mem_cons_of_mem _ hmem)
          rw [List.intercalate_cons_cons, List.append_assoc, List.singleton_append, splitLines,
            linesFrom_append hl, List.append_nil, reread, ← hrest]
          rfl

theorem reread_eq_self_iff (ls : List (List Char)) :
    reread ls = ls ↔
      ls.getLast? ≠ some [] ∧ ∀ l ∈ ls.dropLast, l.getLast? ≠ some '\r' := by
  induction ls with
  | nil => simp [reread]
  | cons l ls ih =>
      cases ls with
      | nil => cases l <;> simp [reread]
      | cons l' ls =>
          rw [reread, List.cons_eq_cons, ih, endedLine_reverse_eq_iff, List.getLast?_cons_cons,
            List.dropLast_cons_cons, List.forall_mem_cons]
          tauto

theorem eq_of_reread_eq_nil {ls : List (List Char)} (h : reread ls = []) :
    ls = [] ∨ ls = [[]] := by
  match ls with
  | [] => exact .inl rfl
  | [[]] => exact .inr rfl
  | [_ :: _] | _ :: _ :: _ => cases h

theorem toList_toText (d : Document) :
    d.toText.toList = ['\n'].intercalate (d.map String.toList) :=
  String.toList_intercalate

variable {d d' : Document}

theorem Unbroken.map_toList (h : d.Unbroken) : ∀ l ∈ d.map String.toList, '\n' ∉ l := by
  intro l hl
  obtain ⟨line, hline, rfl⟩ := List.mem_map.1 hl
  exact h line hline

theorem ofText_toText (h : d.Unbroken) :
    ofText d.toText = (reread (d.map String.toList)).map String.ofList := by
  rw [ofText, toList_toText, splitLines_intercalate h.map_toList]

theorem map_toList_reloads_iff (d : Document) :
    reread (d.map String.toList) = d.map String.toList ↔ d.Reloads := by
  have hlast : (d.map String.toList).getLast? ≠ some [] ↔ d.getLast? ≠ some "" := by
    simp [List.getLast?_map]
  rw [reread_eq_self_iff, Reloads, hlast, ← List.map_dropLast, List.forall_mem_map]

/-- A document comes back from its text just if it has one that can be read again. -/
theorem ofText_toText_eq_iff (h : d.Unbroken) : ofText d.toText = d ↔ d.Reloads := by
  rw [ofText_toText h, ← map_toList_reloads_iff]
  constructor
  · intro hd
    have := congrArg (List.map String.toList) hd
    simpa using this
  · intro hd
    rw [hd]
    simp

theorem eq_of_toText_eq (h : d.Unbroken) (h' : d'.Unbroken) (hd : d ≠ []) (hd' : d' ≠ [])
    (heq : d.toText = d'.toText) : d = d' := by
  have hlist := congrArg (fun s : String => s.toList.splitOn '\n') heq
  simp only [toList_toText] at hlist
  rw [List.splitOn_intercalate '\n' h.map_toList (by simpa using hd),
    List.splitOn_intercalate '\n' h'.map_toList (by simpa using hd')] at hlist
  exact (List.map_inj_right fun _ _ => String.toList_inj.1).1 hlist

/-- Writing what was read back changes nothing, just if it was what had been written; but no text
tells one empty line from none. -/
theorem toText_ofText_toText_eq_iff (h : d.Unbroken) :
    (ofText d.toText).toText = d.toText ↔ d.Reloads ∨ d = [""] := by
  constructor
  · intro heq
    by_cases hd : d = []
    · subst hd
      exact .inl ⟨by simp, by simp⟩
    by_cases hd' : ofText d.toText = []
    · rw [ofText_toText h, List.map_eq_nil_iff] at hd'
      obtain hnil | hblank := eq_of_reread_eq_nil hd'
      · exact absurd (List.map_eq_nil_iff.1 hnil) hd
      · exact .inr (by simpa [List.map_eq_singleton_iff] using hblank)
    · exact .inl ((ofText_toText_eq_iff h).1 (eq_of_toText_eq (unbroken_ofText _) h hd' hd heq))
  · rintro (hd | rfl)
    · rw [(ofText_toText_eq_iff h).2 hd]
    · rfl

end Document

theorem Contents.document_toUTF8 (t : String) :
    Contents.document (.ok t.toUTF8) = .ok (Document.ofText t) := by
  have ht : String.fromUTF8? t.toUTF8 = some t := dif_pos t.isValidUTF8
  simp only [Contents.document, Contents.text, Except.bind, ht]
  rfl

theorem Contents.exists_ofText {contents : Contents} {d : Document}
    (h : contents.document = .ok d) : ∃ t, d = Document.ofText t := by
  rw [Contents.document] at h
  cases ht : contents.text with
  | error e =>
      rw [ht] at h
      cases h
  | ok t =>
      rw [ht] at h
      cases h
      exact ⟨t, rfl⟩

/-- Rules that leave every document as it is. -/
def KeepsLines (sources : List String) : Prop :=
  ∀ status lines, (execute sources status lines).1 = lines

theorem keepsLines_print : KeepsLines ["print"] := by
  intro status lines
  have h : Rule.read "print" = .ok .keepAll :=
    Rule.read_of_rule (Reader.rule_printAll .top (by simp [Reader.Selects])
      (by simp [Reader.EndsWord])) isLayout_nil
  rw [execute_fst, List.map_singleton, Rule.readOrIdle, h]
  rfl

theorem Job.written_of_keepsLines {o : CommandLine.Options} {s : Surroundings} {path : String}
    {d : Document} (hd : s.input.document = .ok d) (hw : o.write = true)
    (hi : o.input = some path) (hk : KeepsLines o.rules) :
    ∃ job, Job.prepare o s = .ok job ∧ job.finish.written = some (path, d.toText) := by
  refine ⟨_, by rw [Job.prepare]; simp only [hd]; rfl, ?_⟩
  simp only [Job.finish, hw, hi, if_true, hk _ d]

/-- The lines of a loaded file come back from what is written just if their text can be read again.
So a run that changes no line and writes back leaves just these lines, and so does a second run,
also of one empty line. -/
theorem Document.reload_iff {contents : Contents} {d : Document}
    (hd : contents.document = .ok d) :
    (Contents.document (.ok d.toText.toUTF8) = .ok d ↔ d.Reloads) ∧
      ∀ (o : CommandLine.Options) (s : Surroundings) (path : String),
        s.input = contents → o.write = true → o.input = some path → KeepsLines o.rules →
          ∃ first second,
            Job.prepare o s = .ok first ∧ first.finish.written = some (path, d.toText) ∧
              Job.prepare o { s with input := .ok d.toText.toUTF8 } = .ok second ∧
                (second.finish.written = some (path, d.toText) ↔ d.Reloads ∨ d = [""]) := by
  obtain ⟨t, rfl⟩ := Contents.exists_ofText hd
  have hunbroken := Document.unbroken_ofText t
  refine ⟨?_, ?_⟩
  · rw [Contents.document_toUTF8, Except.ok.injEq]
    exact Document.ofText_toText_eq_iff hunbroken
  · intro o s path hs hw hi hk
    obtain ⟨first, hfirst, hwritten⟩ := Job.written_of_keepsLines (hs ▸ hd) hw hi hk
    have hagain : Contents.document (.ok (Document.ofText t).toText.toUTF8) = .ok _ :=
      Contents.document_toUTF8 _
    obtain ⟨second, hsecond, hwritten'⟩ := Job.written_of_keepsLines
      (s := { s with input := .ok (Document.ofText t).toText.toUTF8 }) hagain hw hi hk
    refine ⟨first, second, hfirst, hwritten, hsecond, ?_⟩
    rw [hwritten', ← Document.toText_ofText_toText_eq_iff hunbroken]
    simp

theorem Document.reload_crlf :
    let contents : Contents := .ok "a\r\nb\n".toUTF8
    let o : CommandLine.Options := { rules := ["print"], input := some "f", write := true }
    let s : Surroundings := ⟨fun _ => none, .error .notFound, contents, false⟩
    contents.document = .ok ["a", "b"] ∧ KeepsLines o.rules ∧
      Contents.document (.ok "a\nb".toUTF8) = .ok ["a", "b"] ∧
      ∃ first second,
        Job.prepare o s = .ok first ∧ first.finish.written = some ("f", "a\nb") ∧
          Job.prepare o { s with input := .ok "a\nb".toUTF8 } = .ok second ∧
            second.finish.written = some ("f", "a\nb") := by
  intro contents o s
  have hd : contents.document = .ok ["a", "b"] := Contents.document_toUTF8 "a\r\nb\n"
  have hreloads : Document.Reloads ["a", "b"] := ⟨by decide, by decide⟩
  obtain ⟨hload, hruns⟩ := Document.reload_iff hd
  obtain ⟨first, second, hfirst, hwritten, hsecond, hagain⟩ :=
    hruns o s "f" rfl rfl rfl keepsLines_print
  exact ⟨hd, keepsLines_print, hload.2 hreloads, first, second, hfirst, hwritten, hsecond,
    hagain.2 (.inl hreloads)⟩

/-- One run loses the empty line at the end, and a second run the line feed before it. A carriage
return is lost where another one stood between it and the line feed. -/
theorem Document.reload_loses :
    let contents : Contents := .ok "a\n\n".toUTF8
    let o : CommandLine.Options := { rules := ["print"], input := some "f", write := true }
    let s : Surroundings := ⟨fun _ => none, .error .notFound, contents, false⟩
    (¬ ∀ t : String, Document.ofText (Document.ofText t).toText = Document.ofText t) ∧
      contents.document = .ok ["a", ""] ∧ KeepsLines o.rules ∧
      Contents.document (.ok (Document.toText ["a", ""]).toUTF8) = .ok ["a"] ∧
      (∃ first second,
        Job.prepare o s = .ok first ∧ first.finish.written = some ("f", "a\n") ∧
          Job.prepare o { s with input := .ok "a\n".toUTF8 } = .ok second ∧
            second.finish.written = some ("f", "a")) ∧
      Contents.document (.ok "a\r\r\nb".toUTF8) = .ok ["a\r", "b"] ∧
      Contents.document (.ok (Document.toText ["a\r", "b"]).toUTF8) = .ok ["a", "b"] := by
  intro contents o s
  have hnot : Document.ofText (Document.ofText "a\n\n").toText ≠ Document.ofText "a\n\n" := by
    decide
  have hd : contents.document = .ok ["a", ""] := Contents.document_toUTF8 "a\n\n"
  have hd' : Contents.document (.ok "a\n".toUTF8) = .ok ["a"] := Contents.document_toUTF8 "a\n"
  obtain ⟨first, hfirst, hwritten⟩ :=
    Job.written_of_keepsLines (o := o) (s := s) hd rfl rfl keepsLines_print
  obtain ⟨second, hsecond, hwritten'⟩ := Job.written_of_keepsLines (o := o)
    (s := { s with input := .ok "a\n".toUTF8 }) hd' rfl rfl keepsLines_print
  exact ⟨fun h => hnot (h "a\n\n"), hd, keepsLines_print, hd',
    ⟨first, second, hfirst, hwritten, hsecond, hwritten'⟩, Contents.document_toUTF8 "a\r\r\nb",
    Contents.document_toUTF8 "a\r\nb"⟩

end Linewise
