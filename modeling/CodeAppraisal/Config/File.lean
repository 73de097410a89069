import CodeAppraisal.Config.Basic
import CodeAppraisal.Text.Utf8
import CodeAppraisal.Toml.Document

/-!
Settings from files. What a file does not set stays at its default, and what it sets beyond the
settings does not matter.
-/
namespace CodeAppraisal.Config

open Toml (Value)

def stringOf? : Value → Option String
  | .string s => some s
  | _ => none

def natOf? (bound : Nat) : Value → Option Nat
  | .integer n => if 0 ≤ n && n.toNat < bound then some n.toNat else none
  | _ => none

def stringsOf? : Value → Option (List String)
  | .array items => items.mapM stringOf?
  | _ => none

def fieldsOf? (names : List String) : Value → Option (List (String × Value))
  | .table entries => some entries
  | .array items => some (names.zip items)
  | _ => none

def setting {β : Type} (fields : List (String × Value)) (name : String) (read : Value → Option β)
    (standard : β) : Option β :=
  match fields.lookup name with
  | some v => read v
  | none => some standard

def serverOf? (v : Value) : Option ServerConfig := do
  let fields ← fieldsOf? ["host", "port", "static_dir", "max_upload_bytes", "allowed_extensions"] v
  let standard : ServerConfig := {}
  return {
    host := ← setting fields "host" stringOf? standard.host
    port := ← setting fields "port" (natOf? (Nat.pow 2 16)) standard.port
    staticDirectory := ← setting fields "static_dir" stringOf? standard.staticDirectory
    maxUploadBytes :=
      ← setting fields "max_upload_bytes" (natOf? (Nat.pow 2 64)) standard.maxUploadBytes
    allowedExtensions :=
      ← setting fields "allowed_extensions" stringsOf? standard.allowedExtensions }

def smellsOf? (v : Value) : Option SmellThresholds := do
  let fields ← fieldsOf? ["max_function_lines", "max_parameters", "max_nesting_depth"] v
  let standard : SmellThresholds := {}
  let limit (name : String) (n : Nat) := setting fields name (natOf? (Nat.pow 2 64)) n
  return {
    maxFunctionLines := ← limit "max_function_lines" standard.maxFunctionLines
    maxParameters := ← limit "max_parameters" standard.maxParameters
    maxNestingDepth := ← limit "max_nesting_depth" standard.maxNestingDepth }

def ofToml? (document : String) : Option Config := do
  let fields ← Toml.parse document
  return {
    server := ← setting fields "server" serverOf? {}
    smells := ← setting fields "smells" smellsOf? {} }

def ofFile (path : String) (contents : Option ByteArray) : Except ConfigError Config :=
  match contents.map Text.ofUtf8 with
  | some (.ok document) =>
    match ofToml? document with
    | some c => .ok c
    | none => .error (.malformed path)
  | _ => .error (.unreadable path)

end CodeAppraisal.Config
