import CodeAppraisal.Config.File
import CodeAppraisal.Workspace.Basic

/-!
The settings of a run: from the file that is named, else from the default file if there is one, and
last from environment variables.
-/
namespace CodeAppraisal.Config

variable {m : Type → Type} [Monad m]

def fromFiles (s : Surroundings m) (named : Option String) : m (Except ConfigError Config) := do
  match named with
  | some path => return ofFile path (← s.read path).contents?
  | none =>
    match ← s.read defaultPath with
    | .file contents => return ofFile defaultPath (some contents)
    | _ => return .ok {}

def load (s : Surroundings m) (named : Option String) : m (Except ConfigError Config) := do
  return (← fromFiles s named) >>= overridden s.lookup

end CodeAppraisal.Config
