import CodeAppraisal.Report.Analysis
import CodeAppraisal.Text.Utf8

/-!
Texts from outside: pasted ones and uploaded files.
-/
namespace CodeAppraisal

inductive InputError where
  | unsupportedExtension (filename : String)
  | emptyInput
  | invalidUtf8 (filename : String) (fault : Text.Utf8Fault)
  deriving DecidableEq, Repr

namespace InputError

def message : InputError → String
  | .unsupportedExtension _ => "Only Python files (.py) are supported"
  | .emptyInput => "No code provided"
  | .invalidUtf8 filename fault => s!"'{filename}' is not valid UTF-8: {fault.message}"

def isClientError : InputError → Bool
  | .unsupportedExtension _ | .emptyInput => true
  | .invalidUtf8 .. => false

end InputError

namespace Analyzer

variable {α : Type} [Quantity α]

def analyzeText (a : Analyzer α) (code : String) : Except InputError (AnalysisReport α) :=
  if code.isEmpty then .error .emptyInput else .ok (a.analyze code)

def accepts (a : Analyzer α) (filename : String) : Bool :=
  a.extensions.any fun e => e.toList.isSuffixOf filename.toList

def checkExtension (a : Analyzer α) (filename : String) : Except InputError Unit :=
  if a.accepts filename then .ok () else .error (.unsupportedExtension filename)

def analyzeUpload (a : Analyzer α) (filename : String) (content : ByteArray) :
    Except InputError (AnalysisReport α) :=
  if a.accepts filename then
    match Text.ofUtf8 content with
    | .ok code => .ok { a.analyze code with filename := some filename }
    | .error fault => .error (.invalidUtf8 filename fault)
  else .error (.unsupportedExtension filename)

end Analyzer

end CodeAppraisal
