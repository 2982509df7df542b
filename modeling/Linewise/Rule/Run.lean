import Linewise.Document
import Linewise.Rule.Compile
import Linewise.Status

/-!
Running rules. Each rule takes all lines and gives all lines to the next one, so rules about lines
and rules about the whole document compose alike. A block of an `if` or a `between` runs on one line
at a time, and what it leaves of the line stands in its place.
-/
namespace Linewise

/-- Rearranges a document. Lines sort by code points; joining no lines leaves one empty line. -/
def Arrangement.apply : Arrangement → Document → Document
  | sort, lines => lines.mergeSort fun a b => decide (a ≤ b)
  | reverse, lines => lines.reverse
  | join, lines => [String.intercalate " " lines]

/-- The lines of a choice, which always stand side by side. -/
def LineSpec.select (spec : LineSpec) (lines : Document) : Document :=
  match spec.resolve lines.length with
  | [] => []
  | first :: others => (lines.drop first).take (others.length + 1)

/-- Puts a text in the place of one line, if that line exists. -/
def Document.replaceLine (n : Int) (text : String) (lines : Document) : Document :=
  match resolvePosition n lines.length with
  | some i => lines.set i text
  | none => lines

/-- Applies `inner` to each line inside a section. The lines that start and end a section stay as
they are; the line after either is already on the other side. A section that is not ended runs to
the end of the document. -/
def inSections (starts stops : String → Bool) (inner : String → Document) :
    Bool → Document → Document
  | _, [] => []
  | false, line :: lines => line :: inSections starts stops inner (starts line) lines
  | true, line :: lines =>
      if stops line then line :: inSections starts stops inner false lines
      else inner line ++ inSections starts stops inner true lines

mutual

/-- Runs one rule over a document, given the status of the previous command. -/
def Rule.run (status : Option String) : Rule Pattern → Document → Document
  | .substitute p replacement everywhere, lines =>
      lines.map fun line => p.replace line replacement everywhere
  | .setLine n text, lines => Document.replaceLine n text lines
  | .keepMatching p, lines => lines.filter p.matchesLine
  | .keepLines spec, lines => spec.select lines
  | .keepAll, lines => lines
  | .arrange how, lines => how.apply lines
  | .ifMatch p body, lines =>
      lines.flatMap fun line =>
        if p.matchesLine line then Rule.runAll status body [line] else [line]
  | .between start stop body, lines =>
      inSections start.matchesLine stop.matchesLine
        (fun line => Rule.runAll status body [line]) false lines
  | .onStatus code body otherwise, lines =>
      if Status.holds status code then Rule.runAll status body lines
      else Rule.runAll status otherwise lines
  | .idle, lines => lines

def Rule.runAll (status : Option String) : List (Rule Pattern) → Document → Document
  | [], lines => lines
  | r :: rs, lines => Rule.runAll status rs (r.run status lines)

end

theorem Rule.runAll_append (status : Option String) (rs rs' : List (Rule Pattern))
    (lines : Document) :
    Rule.runAll status (rs ++ rs') lines =
      Rule.runAll status rs' (Rule.runAll status rs lines) := by
  induction rs generalizing lines with
  | nil => simp [Rule.runAll]
  | cons r rs ih => simp [Rule.runAll, ih]

theorem Rule.runAll_compileAll_append (status : Option String) (rs rs' : List (Rule String))
    (lines : Document) :
    Rule.runAll status (Rule.compileAll (rs ++ rs')).1 lines =
      Rule.runAll status (Rule.compileAll rs').1
        (Rule.runAll status (Rule.compileAll rs).1 lines) := by
  rw [Rule.compileAll_fst, List.map_append, Rule.runAll_append, ← Rule.compileAll_fst,
    ← Rule.compileAll_fst]

/-- What each rule of a list keeps between the document it is given and the one it leaves, the list
keeps as well. -/
theorem Rule.runAll_of_run {R : Document → Document → Prop} (hrefl : ∀ d, R d d)
    (htrans : ∀ {a b c}, R a b → R b c → R a c) {status : Option String}
    {rs : List (Rule Pattern)} (h : ∀ r ∈ rs, ∀ lines, R (r.run status lines) lines)
    (lines : Document) : R (Rule.runAll status rs lines) lines := by
  induction rs generalizing lines with
  | nil => exact hrefl lines
  | cons r rs ih =>
      obtain ⟨hr, hrs⟩ := List.forall_mem_cons.1 h
      exact htrans (ih hrs (r.run status lines)) (hr lines)

/-- Reads, compiles and runs rules over a document. Warnings about texts that are no rules come
before those about patterns. -/
def execute (sources : List String) (status : Option String) (lines : Document) :
    Document × List Warning :=
  let (rules, unreadable) := Rule.readAll 1 sources
  let (program, bad) := Rule.compileAll rules
  (Rule.runAll status program lines, unreadable ++ bad)

end Linewise
