import Linewise.CommandLine.Arguments
import Linewise.Json.Text
import Linewise.Paint
import Linewise.Prompt.Session
import Linewise.Settings.File

/-!
A run of the program, from what it finds to what it leaves. Once the input has been read there is a
job, which needs nothing more from outside than the rule that may be edited at the prompt. A job
either prints its output or writes it back to the input file, and no other file is written.
-/
namespace Linewise

structure Surroundings where
  environment : String → Option String
  settings : Contents
  /-- What the input file holds, or the standard input if no file is named. -/
  input : Contents
  outputIsTerminal : Bool

structure Outcome where
  code : UInt32
  output : String
  errors : String
  /-- The path and the new text of the file that was written. -/
  written : Option (String × String)
deriving DecidableEq, Repr

def warningLine (colored : Bool) (text : String) : String :=
  (if colored then inYellow "warning:" else "warning:") ++ " " ++ text ++ "\n"

def errorLine (colored : Bool) (text : String) : String :=
  (if colored then inRed "error:" else "error:") ++ " " ++ text ++ "\n"

/-- What remains to be done once the input has been read. -/
structure Job where
  rules : List String
  status : Option String
  input : Document
  colored : Bool
  json : Bool
  target : Option String
  /-- Whether one more rule is edited at the prompt. -/
  interactive : Bool
  reported : String

namespace Job

/-- The job that options ask for, or the outcome if there is no input. A fault in the file of
settings is reported before the settings are known, and so always in color. -/
def prepare (o : CommandLine.Options) (s : Surroundings) : Except Outcome Job :=
  let (settings, fault?) := match Settings.path? s.environment with
    | some path => Settings.ofFile path s.settings
    | none => (⟨.auto, false⟩, none)
  let reported := String.join (fault?.toList.map fun fault => warningLine true fault.message)
  let choice := o.color.getD settings.color
  let colored := choice.enabled (s.environment "NO_COLOR").isSome s.outputIsTerminal
  match s.input.document with
  | .ok input =>
      .ok
        { rules := o.rules, status := o.status.or (s.environment "SSED_STATUS"), input, colored,
          json := o.json || settings.json, target := if o.write then o.input else none,
          interactive := o.interactive, reported }
  | .error e =>
      let source := match o.input with
        | some path => "'" ++ path ++ "'"
        | none => "stdin"
      let error := errorLine colored ("cannot read " ++ source ++ ": " ++ e.message)
      .error ⟨1, "", reported ++ error, none⟩

/-- The lines of a document as they are printed, each with a line feed. -/
def printed (job : Job) (rules : List (Rule String)) (d : Document) : String :=
  if job.json then Json.pretty d ++ "\n"
  else
    let highlighter := Highlighter.ofRules rules
    let paint := if job.colored && !highlighter.isEmpty then highlighter.paint true else id
    String.join (d.map fun line => paint line ++ "\n")

def finish (job : Job) : Outcome :=
  let (d, warnings) := execute job.rules job.status job.input
  let errors := job.reported ++ String.join (warnings.map fun w => warningLine job.colored w.text)
  match job.target with
  | some path => ⟨0, "", errors, some (path, d.toText)⟩
  | none => ⟨0, job.printed (Rule.readAll 1 job.rules).1 d, errors, none⟩

/-- What is told after the errors of an outcome, and the code, where its file or its output cannot be
written. Of JSON the first line to be written is the first to fail, unless there is only one. -/
def undelivered (job : Job) (outcome : Outcome) (e : FileError) : Outcome :=
  let failure := match outcome.written with
    | some (path, _) => "cannot write '" ++ path ++ "'"
    | none =>
        if job.json && outcome.output != "[]\n" then "JSON serialization failed"
        else "write failed"
  ⟨1, "", errorLine job.colored (failure ++ ": " ++ e.message), none⟩

/-- The session in which one more rule is edited, on a screen. -/
def session (job : Job) (window : Prompt.Window) : Prompt.Session :=
  .start (.ofSources job.rules job.status job.input) window

def afterSession (job : Job) : Prompt.Session.Ending → Outcome
  | .committed rule => { job with rules := job.rules ++ [String.ofList rule] }.finish
  | .cancelled => ⟨0, "", job.reported, none⟩

/-- The outcome where there is no terminal for a session. -/
def withoutTerminal (job : Job) : Outcome :=
  let error := "failed to enable raw mode: No such device or address (os error 6)"
  ⟨1, "", job.reported ++ errorLine job.colored error, none⟩

end Job

namespace CommandLine

def Notice.outcome (n : Notice) : Outcome := ⟨0, n.text, "", none⟩

def UsageError.outcome (e : UsageError) : Outcome := ⟨2, "", errorLine false e.message, none⟩

end CommandLine

/-- The job that the arguments of a command line ask for, or the outcome if there is none. -/
def Job.ofArguments (texts : List String) (s : Surroundings) : Except Outcome Job :=
  match CommandLine.Request.ofArguments texts with
  | .ok (.run o) => prepare o s
  | .ok (.print n) => .error n.outcome
  | .error e => .error e.outcome

/-- A terminal, by its screen and the keys that will be pressed. -/
structure Terminal where
  window : Prompt.Window
  keys : List Prompt.Key

/-- The outcome of a job, and what the terminal is told before it. There is no outcome as long as no
key has ended the session. -/
def Job.run (job : Job) (terminal : Option Terminal) : List Prompt.Command × Option Outcome :=
  match job.interactive, terminal with
  | false, _ => ([], some job.finish)
  | true, none => ([], some job.withoutTerminal)
  | true, some t =>
      let (commands, result) := (job.session t.window).run t.keys
      (.askPosition :: commands, result.getRight?.map job.afterSession)

end Linewise
