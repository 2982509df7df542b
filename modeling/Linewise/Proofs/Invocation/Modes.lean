import Linewise.Proofs.Document.Piping

/-!
Where a run puts its result. It writes the result back to the input file and prints nothing, or
prints it and leaves all files alone; what is printed plainly is what would be written, with one
more line feed. A run whose input cannot be read does neither. The session at the prompt is not
described here, only that no run comes to it without an input.
-/
namespace Linewise

/-- What a run may find where it takes place. -/
structure Machine where
  files : String → Contents
  standardInput : Contents
  environment : String → Option String
  outputIsTerminal : Bool

namespace Machine

variable (m : Machine) (o : CommandLine.Options)

/-- What a run is to read. -/
def input : Contents :=
  match o.input with
  | some path => m.files path
  | none => m.standardInput

def surroundings : Surroundings where
  environment := m.environment
  settings := match Settings.path? m.environment with
    | some path => m.files path
    | none => .error .notFound
  input := m.input o
  outputIsTerminal := m.outputIsTerminal

/-- A run with the given options, from its input to its outcome. -/
def run (terminal : Option Terminal) : List Prompt.Command × Option Outcome :=
  match Job.prepare o (m.surroundings o) with
  | .ok job => job.run terminal
  | .error outcome => ([], some outcome)

/-- The machine after a run with the given outcome. -/
def after (outcome : Outcome) : Machine :=
  match outcome.written with
  | some (path, text) =>
      { m with files := fun p => if p = path then .ok text.toUTF8 else m.files p }
  | none => m

end Machine

namespace Surroundings

variable (s : Surroundings)

/-- The settings of a run, and what is wrong with their file. -/
def loaded : Settings × Option Settings.FileFault :=
  match Settings.path? s.environment with
  | some path => Settings.ofFile path s.settings
  | none => (⟨.auto, false⟩, none)

/-- The warning about the settings, if there is one. -/
def reported : String :=
  String.join (s.loaded.2.toList.map fun fault => warningLine true fault.message)

/-- Whether a run with the given options colors its output. -/
def colored (o : CommandLine.Options) : Bool :=
  (o.color.getD s.loaded.1.color).enabled (s.environment "NO_COLOR").isSome s.outputIsTerminal

/-- Whether a run with the given options prints JSON. -/
def json (o : CommandLine.Options) : Bool := o.json || s.loaded.1.json

/-- The exit status of the previous command for a run with the given options. -/
def status (o : CommandLine.Options) : Option String :=
  o.status.or (s.environment "SSED_STATUS")

/-- The job of a run with the given options and input. -/
def job (o : CommandLine.Options) (input : Document) : Job :=
  { rules := o.rules, status := s.status o, input, colored := s.colored o, json := s.json o,
    target := if o.write then o.input else none, interactive := o.interactive,
    reported := s.reported }

end Surroundings

namespace Job

variable {o : CommandLine.Options} {s : Surroundings}

theorem prepare_of_document {d : Document} (hd : s.input.document = .ok d) :
    prepare o s = .ok (s.job o d) := by
  simp only [prepare, hd]
  rfl

/-- Without an input there is nothing but an error. -/
theorem prepare_of_error {e : FileError} (he : s.input.document = .error e) :
    ∃ errors, prepare o s = .error ⟨1, "", errors, none⟩ := by
  simp only [prepare, he]
  exact ⟨_, rfl⟩

end Job

theorem Contents.document_eq_error {contents : Contents}
    (h : (∃ e, contents = .error e) ∨ ∃ bytes, contents = .ok bytes ∧ ¬ bytes.IsValidUTF8) :
    ∃ e, contents.document = .error e := by
  obtain ⟨e, rfl⟩ | ⟨bytes, rfl, hbytes⟩ := h
  · exact ⟨e, rfl⟩
  · have hnone : String.fromUTF8? bytes = none := dif_neg hbytes
    refine ⟨.notUtf8, ?_⟩
    simp only [Contents.document, Contents.text, Except.bind, hnone]
    rfl

theorem Document.toText_cons_cons (line line' : String) (lines : Document) :
    Document.toText (line :: line' :: lines) =
      line ++ "\n" ++ Document.toText (line' :: lines) :=
  String.intercalate_cons_cons

/-- What is printed line by line is what is written back and one more line feed. -/
theorem Document.join_ended_eq (d : Document) :
    String.join (d.map fun line => line ++ "\n") = if d = [] then "" else d.toText ++ "\n" := by
  induction d with
  | nil => rfl
  | cons line lines ih =>
      rw [List.map_cons, String.join_cons, ih, if_neg (List.cons_ne_nil _ _)]
      cases lines with
      | nil => simp [Document.toText]
      | cons line' lines =>
          rw [if_neg (List.cons_ne_nil _ _), Document.toText_cons_cons, String.append_assoc,
            String.append_assoc, String.append_assoc]

def warningLines (colored : Bool) (warnings : List Warning) : String :=
  String.join (warnings.map fun w => warningLine colored w.text)

namespace Job

variable {job : Job}

/-- The warnings about the rules of a job. -/
def warnings (job : Job) : List Warning := (execute job.rules job.status job.input).2

theorem finish_of_target {path : String} (h : job.target = some path) :
    job.finish = ⟨0, "", job.reported ++ warningLines job.colored job.warnings,
      some (path, job.lines.toText)⟩ := by
  simp only [finish, h]
  rfl

theorem Plain.finish (h : job.Plain) :
    job.finish = ⟨0, if job.lines = [] then "" else job.lines.toText ++ "\n",
      job.reported ++ warningLines false job.warnings, none⟩ := by
  rw [← Document.join_ended_eq, ← h.output, ← h.colored]
  simp only [Job.finish, h.target]
  rfl

end Job

namespace Machine

variable {m : Machine} {o : CommandLine.Options} {path : String} {t : String}

theorem document_of_file (ho : o.input = some path) (ht : m.files path = .ok t.toUTF8) :
    (m.surroundings o).input.document = .ok (Document.ofText t) := by
  have hinput : (m.surroundings o).input = .ok t.toUTF8 := by
    simp only [surroundings, input, ho, ht]
  rw [hinput, Contents.document_toUTF8]

theorem run_of_document {d : Document} (hd : (m.surroundings o).input.document = .ok d)
    (ho : o.interactive = false) (terminal : Option Terminal) :
    m.run o terminal = ([], some ((m.surroundings o).job o d).finish) := by
  simp only [run, Job.prepare_of_document hd, Job.run, Surroundings.job, ho]

section

variable (hinput : o.input = some path) (ht : m.files path = .ok t.toUTF8)
  (hprompt : o.interactive = false) (terminal : Option Terminal)
include hinput ht hprompt

theorem run_of_write (hwrite : o.write = true) :
    let s := m.surroundings o
    let result := execute o.rules (s.status o) (Document.ofText t)
    m.run o terminal = ([], some ⟨0, "", s.reported ++ warningLines (s.colored o) result.2,
      some (path, result.1.toText)⟩) := by
  intro s result
  have htarget : (s.job o (Document.ofText t)).target = some path := by
    rw [Surroundings.job, if_pos hwrite, hinput]
  rw [run_of_document (document_of_file hinput ht) hprompt, Job.finish_of_target htarget]
  rfl

theorem run_of_plain {status : Option String} (hstatus : (m.surroundings o).status o = status)
    (hwrite : o.write = false) (hjson : (m.surroundings o).json o = false)
    (hcolored : (m.surroundings o).colored o = false) :
    let result := execute o.rules status (Document.ofText t)
    m.run o terminal = ([], some ⟨0, if result.1 = [] then "" else result.1.toText ++ "\n",
      (m.surroundings o).reported ++ warningLines false result.2, none⟩) := by
  intro result
  have hplain : ((m.surroundings o).job o (Document.ofText t)).Plain := by
    refine ⟨hjson, hcolored, ?_⟩
    rw [Surroundings.job, if_neg (hwrite ▸ Bool.false_ne_true)]
  rw [run_of_document (document_of_file hinput ht) hprompt, hplain.finish]
  simp only [result, ← hstatus]
  rfl

end

theorem run_of_unreadable (h : (∃ e, m.input o = .error e) ∨
      ∃ bytes, m.input o = .ok bytes ∧ ¬ bytes.IsValidUTF8) (terminal : Option Terminal) :
    ∃ errors, m.run o terminal = ([], some ⟨1, "", errors, none⟩) := by
  obtain ⟨e, he⟩ := Contents.document_eq_error h
  obtain ⟨errors, herrors⟩ := Job.prepare_of_error (s := m.surroundings o) he
  refine ⟨errors, ?_⟩
  rw [run, herrors]

end Machine

/-- A run that writes back prints nothing and changes the input file alone. Without writing it
changes no file and prints what the other one writes, with one more line feed unless there is no
line. Without a readable input it changes nothing. -/
theorem Machine.run_modes (m : Machine) (o : CommandLine.Options) (terminal : Option Terminal) :
    (∀ path t, o.input = some path → m.files path = .ok t.toUTF8 → o.interactive = false →
      let s := m.surroundings o
      let result := execute o.rules (s.status o) (Document.ofText t)
      let X := result.1.toText
      let Y := if result.1 = [] then "" else X ++ "\n"
      let written : Outcome :=
        ⟨0, "", s.reported ++ warningLines (s.colored o) result.2, some (path, X)⟩
      m.run { o with write := true } terminal = ([], some written) ∧
        (m.after written).files path = .ok X.toUTF8 ∧
        (∀ p, p ≠ path → (m.after written).files p = m.files p) ∧
        (result.1 = [] → X = "") ∧
        ∀ (m' : Machine) (json : Bool) (color : Option ColorChoice),
          let plain := { o with write := false, json, color }
          let s' := m'.surroundings plain
          m'.files path = m.files path → s'.status plain = s.status o →
            s'.json plain = false → s'.colored plain = false →
              let printed : Outcome := ⟨0, Y, s'.reported ++ warningLines false result.2, none⟩
              m'.run plain terminal = ([], some printed) ∧ m'.after printed = m' ∧
                (m' = m → s'.reported = s.reported)) ∧
      ((∃ e, m.input o = .error e) ∨ (∃ bytes, m.input o = .ok bytes ∧ ¬ bytes.IsValidUTF8) →
        ∃ errors, m.run o terminal = ([], some ⟨1, "", errors, none⟩) ∧
          m.after ⟨1, "", errors, none⟩ = m) := by
  constructor
  · intro path t hinput ht hprompt s result X Y written
    refine ⟨?_, if_pos rfl, ?_, ?_, ?_⟩
    · exact Machine.run_of_write (o := { o with write := true }) hinput ht hprompt terminal rfl
    · intro p hp
      exact if_neg hp
    · intro hnil
      simp only [X, hnil]
      rfl
    · intro m' json color plain s' hfile hstatus hjson hcolored printed
      refine ⟨Machine.run_of_plain (o := plain) hinput (hfile.trans ht) hprompt terminal hstatus rfl
        hjson hcolored, rfl, ?_⟩
      rintro rfl
      rfl
  · intro h
    obtain ⟨errors, herrors⟩ := Machine.run_of_unreadable h terminal
    exact ⟨errors, herrors, rfl⟩

theorem Machine.run_modes_reverse :
    let m : Machine :=
      { files := fun path => if path = "f" then .ok "a\r\nb".toUTF8 else .error .isADirectory
        standardInput := .ok .empty
        environment := fun _ => none
        outputIsTerminal := true }
    let o : CommandLine.Options :=
      { rules := ["reverse"], input := some "f", color := some .never, json := true }
    let written : Outcome := ⟨0, "", "", some ("f", "b\na")⟩
    m.run { o with write := true } none = ([], some written) ∧
      (m.after written).files "f" = .ok "b\na".toUTF8 ∧ (m.after written).files "d" = m.files "d" ∧
      m.run { o with json := false } none = ([], some ⟨0, "b\na\n", "", none⟩) ∧
      m.input { o with input := some "d" } = .error .isADirectory ∧
      ∃ errors, m.run { o with input := some "d", write := true } none =
        ([], some ⟨1, "", errors, none⟩) := by
  intro m o written
  have hresult : execute o.rules ((m.surroundings o).status o) (Document.ofText "a\r\nb") =
      (["b", "a"], []) := by
    with_unfolding_all rfl
  have hheld : m.files "f" = .ok "a\r\nb".toUTF8 := by
    simp only [m, if_true]
  obtain ⟨hmodes, -⟩ := Machine.run_modes m o none
  obtain ⟨hwritten, hfile, hframe, -, hprinted⟩ := hmodes "f" "a\r\nb" rfl hheld rfl
  obtain ⟨-, hfails⟩ := Machine.run_modes m { o with input := some "d", write := true } none
  obtain ⟨errors, herrors, -⟩ := hfails (.inl ⟨.isADirectory, rfl⟩)
  rw [hresult] at hwritten hfile hframe hprinted
  obtain ⟨hplain, -⟩ := hprinted m false (some .never) rfl rfl rfl rfl
  exact ⟨hwritten, hfile, hframe "d" (by decide), hplain, rfl, errors, herrors⟩

end Linewise
