import CodeAppraisal.Service.MediaType
import CodeAppraisal.Service.Refusal

/-!
Analyses on request: of an uploaded file, and of a text in JSON.
-/
namespace CodeAppraisal.Service

variable {α : Type} [Quantity α]

def accepted (r : Except InputError (AnalysisReport α)) : Except Refusal (AnalysisReport α) :=
  r.mapError .input

def isFile (name : Option String) : Bool := name = some "file"

def analyzeFile (a : Analyzer α) (filename : Option String)
    (content : Except FormFault (List UInt8)) : Except Refusal (AnalysisReport α) :=
  let filename := filename.getD ""
  -- the name is looked at first, as the contents may have been lost
  match a.checkExtension filename with
  | .error e => .error (.input e)
  | .ok () =>
    match content with
    | .error fault => .error (.form fault)
    | .ok bytes => accepted (a.analyzeUpload filename ⟨bytes.toArray⟩)

def analyzeParts (a : Analyzer α) (ending : FormEnd) :
    List FormPart → Except Refusal (AnalysisReport α)
  | [] =>
    match ending with
    | .finished => .error .missingFile
    | .broken fault => .error (.form fault)
    | .cut name filename =>
      let fault := FormFault.incompletePart name
      if isFile name then analyzeFile a filename (.error fault) else .error (.form fault)
  | part :: rest =>
    if isFile part.name then analyzeFile a part.filename (.ok part.content)
    else analyzeParts a ending rest

def analyzeForm (a : Analyzer α) (form : Form) : Except Refusal (AnalysisReport α) :=
  analyzeParts a form.ending form.parts

def textOf (limit : Nat) (type : Option MediaType) (body : List UInt8) :
    Except PayloadFault String :=
  if !type.any (·.isJson) then .error .notJson
  else if limit < body.length then .error .tooLong
  else (TextRequest.ofBytes body).mapError .unreadable

def analyzePayload (a : Analyzer α) (limit : Nat) (type : Option MediaType) (body : List UInt8) :
    Except Refusal (AnalysisReport α) :=
  match textOf limit type body with
  | .ok code => accepted (a.analyzeText code)
  | .error fault => .error (.payload fault)

end CodeAppraisal.Service
