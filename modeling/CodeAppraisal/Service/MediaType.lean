/-!
Media types with their parameters, which say how the body of a message is to be read.
-/
namespace CodeAppraisal.Service

structure MediaType where
  kind : String
  subkind : String
  parameters : List (String × String)
  deriving DecidableEq, Repr

namespace MediaType

def isToken (c : Char) : Bool := c.isAlphanum || "!#$%&'*+-.^_`|~".toList.contains c

def isPrintable (c : Char) : Bool := 32 ≤ c.toNat && c.toNat < 127

def token (cs : List Char) : List Char × List Char := cs.span isToken

/-- A value in quotes after the opening one, and what follows it. It is never empty: a quote that
comes first belongs to it. -/
def quotedValue? : List Char → Option (List Char × List Char)
  | [] => none
  | c :: cs =>
    let (value, rest) := cs.span (· ≠ '"')
    match rest with
    | '"' :: rest => some (c :: value, rest)
    | _ => none

def afterSemicolon? : List Char → Option (List Char)
  | [] => some []
  | c :: cs => if c = ';' then some cs else none

def parameterValue? (cs : List Char) : Option (List Char × List Char) :=
  match cs with
  | '"' :: cs => do
    let (value, rest) ← quotedValue? cs
    return (value, ← afterSemicolon? (rest.dropWhile (· = ' ')))
  | cs => do
    let (value, rest) := token cs
    if value.isEmpty && !rest.isEmpty then none
    else return (value, ← afterSemicolon? rest)

def parameter? (cs : List Char) : Option ((String × String) × List Char) :=
  let (name, rest) := token cs
  match name, rest with
  | _ :: _, '=' :: rest => do
    let (value, rest) ← parameterValue? rest
    return (((String.ofList name).toLower, String.ofList value), rest)
  | _, _ => none

def parameters? (cs : List Char) : Option (List (String × String)) :=
  match cs.dropWhile (· = ' ') with
  | [] => some []
  | trimmed =>
    match parameter? trimmed with
    | some (p, rest) =>
      if rest.length < cs.length then (p :: ·) <$> parameters? rest else none
    | none => none
termination_by cs.length

def ofString? (text : String) : Option MediaType :=
  if !text.toList.all isPrintable then none
  else
    let (kind, rest) := token text.toList
    match kind, rest with
    | _ :: _, '/' :: rest => do
      let (subkind, rest) := token rest
      if subkind.isEmpty && !rest.isEmpty then none
      else
        return ⟨(String.ofList kind).toLower, (String.ofList subkind).toLower,
          ← parameters? (← afterSemicolon? rest)⟩
    | _, _ => none

def splitAtPlus? (cs : List Char) : Option (List Char × List Char) :=
  let after := (cs.reverse.takeWhile (· ≠ '+')).reverse
  let before := cs.take (cs.length - after.length - 1)
  if before.isEmpty then none else some (before, after)

def isJson (m : MediaType) : Bool :=
  let json := "json".toList
  m.kind = "application" &&
    match splitAtPlus? m.subkind.toList with
    | some (before, after) => before = json || after = json
    | none => m.subkind = "json"

def boundary? (m : MediaType) : Option String :=
  if m.kind = "multipart" && m.subkind = "form-data" then m.parameters.lookup "boundary" else none

end MediaType

end CodeAppraisal.Service
