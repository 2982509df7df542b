import Linewise.Files
import Linewise.Settings.Reader

/-!
Settings from a file. A file that does not exist settles nothing; nor does one that cannot be read,
but the user is warned of it.
-/
namespace Linewise.Settings

/-- What can be wrong with the file of settings at a path. -/
inductive FileFault
  | unreadable (path : String) (error : FileError)
  | invalid (path : String) (fault : Fault)
deriving DecidableEq, Repr

def FileFault.message : FileFault → String
  | unreadable path e => "cannot read config '" ++ path ++ "': " ++ e.message
  | invalid path fault => "invalid config '" ++ path ++ "': " ++ fault.message

/-- The settings in the file at a path, given what the file holds. -/
def ofFile (path : String) (contents : Contents) : Settings × Option FileFault :=
  match contents.text with
  | .error .notFound => (⟨.auto, false⟩, none)
  | .error e => (⟨.auto, false⟩, some (.unreadable path e))
  | .ok text =>
      match read text with
      | .ok settings => (settings, none)
      | .error fault => (⟨.auto, false⟩, some (.invalid path fault))

/-- The path of something inside a directory. -/
private def within (directory name : String) : String :=
  if directory.endsWith "/" then directory ++ name else directory ++ "/" ++ name

/-- The path of the file of settings, by the variables of the environment. The directory for
configuration is the one that the environment names, if it does so by an absolute path, and else
`.config` in the home directory. -/
def path? (environment : String → Option String) : Option String :=
  let named := (environment "XDG_CONFIG_HOME").filter fun d => d.startsWith "/"
  let home := (environment "HOME").filter fun d => d ≠ ""
  let directory := named.orElse fun _ => home.map fun d => within d ".config"
  directory.map fun d => within (within d "ssed") "config.json"

end Linewise.Settings
