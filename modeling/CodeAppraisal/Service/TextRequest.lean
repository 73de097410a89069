import CodeAppraisal.Json.Decode
import CodeAppraisal.Json.Reader
import CodeAppraisal.Json.Skip

/-!
Requests that hold a text: an object with the field `code`, or a list with the text as its only
item. A text that is missing is empty, and what follows the value is not looked at.
-/
namespace CodeAppraisal.Service

structure LocatedError where
  location : Option String
  error : Json.ReadError
  deriving DecidableEq, Repr

def LocatedError.message (e : LocatedError) : String :=
  match e.location with
  | some location => s!"{location}: {e.error.message}"
  | none => e.error.message

inductive PayloadFault where
  | notJson
  | tooLong
  | unreadable (e : LocatedError)
  deriving DecidableEq, Repr

def PayloadFault.message : PayloadFault → String
  | .notJson => "Expected request with `Content-Type: application/json`"
  | .tooLong => "Failed to buffer the request body: length limit exceeded"
  | .unreadable e =>
    if e.error.problem.isData then
      s!"Failed to deserialize the JSON body into the target type: {e.message}"
    else s!"Failed to parse the request body as JSON: {e.message}"

namespace TextRequest

open Json.Reader

abbrev LocatedReader := StateT Json.Cursor (Except LocatedError)

variable {β : Type}

def atTop (r : Json.Reader β) : LocatedReader β := fun c => (r c).mapError (⟨none, ·⟩)

def within (location : String) (r : Json.Reader β) : LocatedReader β :=
  fun c => (r c).mapError (⟨some location, ·⟩)

def wrongType (first : UInt8) (expected : String) : Json.Reader β := do
  let found ← if first = 91 then pure (.array [])
    else if first = 123 then pure (.object [])
    else scalar first
  fail (.invalidType (Json.describe found) expected)

def string : Json.Reader String := do
  match ← peekValue with
  | none => failNext .endInValue
  | some b =>
    if b = 34 then do
      advance
      stringRest
    else wrongType b "a string"

def listEnd : Json.Reader Unit := do
  match ← peekValue with
  | none => failNext .endInList
  | some b =>
    if b = 93 then advance
    else if b = 44 then do
      advance
      failNext (if (← peekValue) = some 93 then .trailingComma else .trailingCharacters)
    else failNext .trailingCharacters

def ofList : LocatedReader String := do
  if ← atTop (hasItem true) then do
    let code ← within "[0]" string
    atTop listEnd
    return code
  else return ""

def twice (name : String) : Json.Reader β := do
  if (← peekValue) = some 125 then advance
  fail (.duplicateField name)

def ofFields : Nat → Bool → Option String → LocatedReader String
  | 0, _, _ => atTop (failNext .endInObject)
  | fuel + 1, first, code => do
    if ← atTop (hasField first) then do
      atTop advance
      let name ← atTop stringRest
      if name ≠ "code" then do
        within name (do colon; skipValue)
        ofFields fuel false code
      else if code.isSome then atTop (twice name)
      else do
        let code ← within name (do colon; string)
        ofFields fuel false (some code)
    else return code.getD ""

def reader : LocatedReader String := do
  match ← atTop peekValue with
  | none => atTop (failNext .endInValue)
  | some b =>
    if b = 91 then do
      atTop advance
      ofList
    else if b = 123 then do
      atTop advance
      ofFields ((← atTop remaining) + 1) true none
    else atTop (wrongType b "struct AnalyzeTextRequest")

def ofBytes (bytes : List UInt8) : Except LocatedError String :=
  (reader.run ⟨bytes, .start⟩).map (·.1)

end TextRequest

end CodeAppraisal.Service
