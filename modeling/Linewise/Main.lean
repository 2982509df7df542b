import Linewise.Invocation

/-!
The program: it gathers what a run finds, and does what the outcome says. The terminal is expected
to hand over each key as it is pressed; its size is the one that the environment tells. Bytes are
read one at a time, so the escape key is known as such only when it is pressed twice.
-/
namespace Linewise

/-- Why the system refuses something, as a run reports it. -/
private def reasonOf : IO.Error → FileError
  | .noFileOrDirectory _ _ _ => .notFound
  | .inappropriateType _ 20 _ => .notADirectory
  | .inappropriateType _ 21 _ => .isADirectory
  | .alreadyExists _ code reason | .interrupted _ code reason | .invalidArgument _ code reason
  | .permissionDenied _ code reason | .resourceExhausted _ code reason
  | .inappropriateType _ code reason | .noSuchThing _ code reason | .otherError code reason
  | .resourceBusy code reason | .resourceVanished code reason | .unsupportedOperation code reason
  | .hardwareFault code reason | .unsatisfiedConstraints code reason
  | .illegalOperation code reason | .protocolError code reason | .timeExpired code reason =>
      .refused code reason
  | .unexpectedEof => .refused 0 "unexpected end of file"
  | .userError reason => .refused 0 reason

private def contentsOf (read : IO ByteArray) : IO Contents := do
  try
    return .ok (← read)
  catch e => return .error (reasonOf e)

private def contentsAt (path : String) : IO Contents := contentsOf (IO.FS.readBinFile path)

private def readEnvironment : IO (String → Option String) := do
  let names := ["XDG_CONFIG_HOME", "HOME", "NO_COLOR", "SSED_STATUS", "COLUMNS", "LINES"]
  let values ← names.mapM fun name => return (name, ← IO.getEnv name)
  return fun name => (values.lookup name).join

private def surroundings (texts : List String) (environment : String → Option String) :
    IO Surroundings := do
  let settings ← match Settings.path? environment with
    | some path => contentsAt path
    | none => pure (.error .notFound)
  let input ← match CommandLine.Request.ofArguments texts with
    | .ok (.run { input := some path, .. }) => contentsAt path
    | .ok (.run _) => contentsOf (do (← IO.getStdin).readBinToEnd)
    | _ => pure (.ok .empty)
  return { environment, settings, input, outputIsTerminal := ← (← IO.getStdout).isTty }

private def tell (colored : Bool) (commands : List Prompt.Command) : IO Unit := do
  let stdout ← IO.getStdout
  stdout.putStr (String.ofList (commands.flatMap (Prompt.Command.encode colored)))
  stdout.flush

/-- Reads up to the end of the answer to the question where the cursor is, which gives the row. -/
private partial def promptRow (keyboard : IO.FS.Handle) (read : List Char) : IO Nat := do
  match (← keyboard.read 1).toList with
  | [] => return 0
  | b :: _ =>
      let c := Char.ofNat b.toNat
      if c = 'R' then
        let row := (read.reverse.dropWhile fun d => !d.isDigit).takeWhile Char.isDigit
        return (String.ofList row).toNat?.getD 1 - 1
      else promptRow keyboard (c :: read)

/-- Feeds a session with keys until one of them ends it, given the bytes of an unfinished report. -/
private partial def edit (keyboard : IO.FS.Handle) (colored : Bool) (s : Prompt.Session)
    (read : ByteArray) : IO Prompt.Session.Ending := do
  let byte ← keyboard.read 1
  if byte.isEmpty then return .cancelled
  let bytes := read ++ byte
  match String.fromUTF8? bytes with
  | none => edit keyboard colored s bytes
  | some report =>
      if Prompt.Key.isUnfinished report.toList then edit keyboard colored s bytes
      else
        let (commands, result) := s.feed (Prompt.Key.ofReport report.toList)
        tell colored commands
        match result with
        | .inl s => edit keyboard colored s .empty
        | .inr ending => return ending

private def session (job : Job) (environment : String → Option String) (keyboard : IO.FS.Handle) :
    IO Prompt.Session.Ending := do
  let size (name : String) (usual : Nat) := ((environment name).bind String.toNat?).getD usual
  let colored := (environment "NO_COLOR").getD "" = ""
  tell colored [.askPosition]
  let row ← promptRow keyboard []
  let (s, commands) := (job.session ⟨size "COLUMNS" 80, size "LINES" 24, row⟩).drawn
  tell colored commands
  edit keyboard colored s .empty

private def runJob (job : Job) (environment : String → Option String) : IO Outcome := do
  if job.interactive then
    let keyboard? ← try
        pure (some (← IO.FS.Handle.mk "/dev/tty" .read))
      catch _ => pure none
    match keyboard? with
    | some keyboard => return job.afterSession (← session job environment keyboard)
    | none => return job.withoutTerminal
  else return job.finish

private def printAll (text : String) : IO Unit := do
  let stdout ← IO.getStdout
  stdout.putStr text
  stdout.flush

/-- Fills a file. What the system takes its time to write is waited for, since it may be refused. -/
private def overwrite (path text : String) : IO Unit :=
  IO.FS.withFile path .write fun file => do
    file.putStr text
    file.flush

/-- Does what the outcome of a job says, errors first. -/
private def carryOut (job : Job) (outcome : Outcome) : IO UInt32 := do
  IO.eprint outcome.errors
  try
    match outcome.written with
    | some (path, text) => overwrite path text
    | none => printAll outcome.output
    return outcome.code
  catch e =>
    let rest := job.undelivered outcome (reasonOf e)
    IO.eprint rest.errors
    return rest.code

end Linewise

open Linewise in
def main (texts : List String) : IO UInt32 := do
  let environment ← readEnvironment
  match Job.ofArguments texts (← surroundings texts environment) with
  | .ok job => carryOut job (← runJob job environment)
  | .error outcome =>
      IO.eprint outcome.errors
      printAll outcome.output
      return outcome.code
