import CodeAppraisal.Json.Basic
import CodeAppraisal.Report.Upload
import CodeAppraisal.Service.Form
import CodeAppraisal.Service.TextRequest

/-!
Why a request for an analysis is turned down, and what the caller is told.
-/
namespace CodeAppraisal.Service

inductive Refusal where
  | input (e : InputError)
  | missingFile
  | form (fault : FormFault)
  | payload (fault : PayloadFault)
  deriving DecidableEq, Repr

namespace Refusal

def status : Refusal → Nat
  | input e => if e.isClientError then 400 else 500
  | form .tooLong => 413
  | _ => 400

def kind : Refusal → String
  | input (.unsupportedExtension _) => "UnsupportedFileType"
  | input .emptyInput => "EmptyInput"
  | input (.invalidUtf8 ..) => "AnalysisError"
  | missingFile => "MissingFile"
  | form _ => "InvalidUpload"
  | payload _ => "InvalidRequest"

def message : Refusal → String
  | input e => if e.isClientError then e.message else s!"Error analyzing code: {e.message}"
  | missingFile => "No file provided in field 'file'"
  | form fault => fault.message
  | payload fault => s!"Invalid JSON payload: {fault.message}"

def encode {α : Type} (r : Refusal) : Json α := .object [
  ("error", .string r.kind),
  ("message", .string r.message),
  ("code", .whole r.status)]

end Refusal

end CodeAppraisal.Service
