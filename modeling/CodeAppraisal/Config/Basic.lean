import CodeAppraisal.Smell.Basic
import CodeAppraisal.Text.Blank

/-!
Settings of the service and the analysis, and the environment variables that override them.
-/
namespace CodeAppraisal

structure ServerConfig where
  host : String := "0.0.0.0"
  port : Nat := 8000
  staticDirectory : String := "static"
  maxUploadBytes : Nat := 5 * 1024 * 1024
  allowedExtensions : List String := [".py"]
  deriving DecidableEq, Repr

def ServerConfig.bindAddress (c : ServerConfig) : String := s!"{c.host}:{c.port}"

structure Config where
  server : ServerConfig := {}
  smells : SmellThresholds := {}
  deriving DecidableEq, Repr

inductive ConfigError where
  | unreadable (path : String)
  | malformed (path : String)
  | invalidVariable (name value : String)
  deriving DecidableEq, Repr

def ConfigError.message : ConfigError → String
  | .unreadable path => s!"failed to read {path}"
  | .malformed path => s!"invalid config {path}"
  | .invalidVariable name value => s!"invalid value for {name}: '{value}'"

namespace Config

def defaultPath : String := "pyreview.toml"

def exampleFile : String :=
"# pyreview configuration

[server]
# Address and port to bind (PYREVIEW_HOST and PORT override these)
host = \"0.0.0.0\"
port = 8000

# Directory served under /static; index.html is the landing page
static_dir = \"static\"

# Largest accepted upload in bytes
max_upload_bytes = 5242880

# Accepted upload file extensions
allowed_extensions = [\".py\"]

[smells]
# Functions spanning more lines are reported as long
max_function_lines = 50

# More positional parameters are reported
max_parameters = 5

# Deeper if/for/while/with nesting is reported
max_nesting_depth = 4
"

def digitsValue? (cs : List Char) : Option Nat :=
  if !cs.isEmpty && cs.all Char.isDigit then
    some (cs.foldl (fun n c => 10 * n + (c.toNat - 48)) 0)
  else none

def portOf? (cs : List Char) : Option Nat := do
  let n ← digitsValue? (if cs.head? = some '+' then cs.tail else cs)
  if n < Nat.pow 2 16 then some n else none

abbrev Change := ExceptT ConfigError (StateM Config)

def setPort (port : Nat) : Change Unit :=
  modify fun c => { c with server := { c.server with port } }

def setHost (host : String) : Change Unit :=
  modify fun c => { c with server := { c.server with host } }

def overridePort (lookup : String → Option String) : Change Unit :=
  match lookup "PORT" with
  | none => return
  | some value =>
    match portOf? (Text.trim value.toList) with
    | some port => setPort port
    | none => throw (.invalidVariable "PORT" value)

def overrideHost (lookup : String → Option String) : Change Unit :=
  match lookup "PYREVIEW_HOST" with
  | none => return
  | some value =>
    let host := Text.trim value.toList
    if host.isEmpty then return else setHost (String.ofList host)

def applyOverrides (lookup : String → Option String) : Change Unit := do
  overridePort lookup
  overrideHost lookup

def overridden (lookup : String → Option String) (c : Config) : Except ConfigError Config :=
  match (applyOverrides lookup).run.run c with
  | (.ok (), c) => .ok c
  | (.error e, _) => .error e

end Config

end CodeAppraisal
