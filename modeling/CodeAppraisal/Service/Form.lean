import CodeAppraisal.Service.MediaType
import CodeAppraisal.Text.Quoted

/-!
Forms: bodies of several parts, each with headers of its own, with a line between them that does not
occur in their contents.
-/
namespace CodeAppraisal.Service

structure FormPart where
  name : Option String
  filename : Option String
  content : List UInt8
  deriving DecidableEq, Repr

inductive FormFault where
  | tooLong
  | incomplete
  | invalidHeaders
  | incompletePart (name : Option String)
  deriving DecidableEq, Repr

def FormFault.message : FormFault → String
  | .tooLong => "failed to read stream"
  | .incomplete => "incomplete multipart stream"
  | .invalidHeaders => "failed to read headers"
  | .incompletePart name =>
    let shown := Text.quoted (name.getD "<unknown>")
    s!"field {shown} received with incomplete data"

inductive FormEnd where
  | finished
  | broken (fault : FormFault)
  | cut (name filename : Option String)
  deriving DecidableEq, Repr

structure Form where
  parts : List FormPart
  ending : FormEnd
  deriving DecidableEq, Repr

namespace Form

def splitAt? (pattern bytes : List UInt8) : Option (List UInt8 × List UInt8) :=
  go [] bytes
where
  go (done : List UInt8) : List UInt8 → Option (List UInt8 × List UInt8)
    | [] => if pattern.isEmpty then some (done.reverse, []) else none
    | b :: bs =>
      if pattern.isPrefixOf (b :: bs) then some (done.reverse, (b :: bs).drop pattern.length)
      else go (b :: done) bs

/-! ### Headers of a part -/

def lineEnd : List UInt8 := [13, 10]

def isBlank (b : UInt8) : Bool := b = 32 || b = 9

def isNameByte (b : UInt8) : Bool := b < 128 && MediaType.isToken (Char.ofNat b.toNat)

def isValueByte (b : UInt8) : Bool := b = 9 || (32 ≤ b && b ≠ 127)

def afterLine? : List UInt8 → Option (List UInt8)
  | 13 :: 10 :: rest => some rest
  | 10 :: rest => some rest
  | _ => none

def header? (bytes : List UInt8) : Option ((List UInt8 × List UInt8) × List UInt8) :=
  let (name, rest) := bytes.span isNameByte
  match name, rest with
  | _ :: _, 58 :: rest => do
    let (value, rest) := (rest.dropWhile isBlank).span isValueByte
    let rest ← afterLine? rest
    let lower (b : UInt8) : UInt8 := if 65 ≤ b && b ≤ 90 then b + 32 else b
    return ((name.map lower, (value.reverse.dropWhile isBlank).reverse), rest)
  | _, _ => none

def headers? : Nat → List UInt8 → Option (List (List UInt8 × List UInt8))
  | limit, bytes =>
    if (afterLine? bytes).isSome then some []
    else
      match limit with
      | 0 => none
      | limit + 1 => do
        let (h, rest) ← header? bytes
        return h :: (← headers? limit rest)

def quotedValue? : List UInt8 → Option (List UInt8)
  | [] => none
  | 92 :: 34 :: rest => (34 :: ·) <$> quotedValue? rest
  | b :: rest => if b = 34 then some [] else (b :: ·) <$> quotedValue? rest

def attributeValue? (bytes : List UInt8) : Option (List UInt8) :=
  match bytes.dropWhile isSpace with
  | 34 :: rest => quotedValue? rest
  | bare => some (bare.takeWhile fun b => b ≠ 59 && b ≠ 32)
where
  isSpace (b : UInt8) : Bool := isBlank b || b = 10 || b = 12 || b = 13

def attribute? (key header : List UInt8) : Option (List UInt8) :=
  match splitAt? key header with
  | none => none
  | some (front, rest) =>
    if front.getLast?.all fun b => attributeValue?.isSpace b || b = 59 then attributeValue? rest
    else if rest.length < header.length then attribute? key rest
    else none
termination_by header.length

def attributeText? (key : String) (headers : List (List UInt8 × List UInt8)) : Option String := do
  let value ← headers.reverse.lookup "content-disposition".toUTF8.toList
  String.fromUTF8? ⟨(← attribute? key.toUTF8.toList value).toArray⟩

/-! ### The body -/

def incomplete : Form := ⟨[], .broken .incomplete⟩

def ofRest (boundary : List UInt8) : Nat → List UInt8 → Form
  | 0, _ => incomplete
  | _ + 1, 45 :: 45 :: _ => ⟨[], .finished⟩
  | fuel + 1, bytes =>
    match bytes.dropWhile isBlank with
    | 13 :: 10 :: rest =>
      match splitAt? (lineEnd ++ lineEnd) rest with
      | none => incomplete
      | some (head, rest) =>
        match headers? 32 (head ++ lineEnd ++ lineEnd) with
        | none => ⟨[], .broken .invalidHeaders⟩
        | some headers =>
          let name := attributeText? "name=" headers
          let filename := attributeText? "filename=" headers
          match splitAt? (lineEnd ++ boundary) rest with
          | none => ⟨[], .cut name filename⟩
          | some (content, rest) =>
            let form := ofRest boundary fuel rest
            { form with parts := ⟨name, filename, content⟩ :: form.parts }
    | _ => incomplete

def ofBytes (limit : Nat) (boundary : String) (body : List UInt8) : Form :=
  if limit < body.length then ⟨[], .broken .tooLong⟩
  else
    let boundary := ("--" ++ boundary).toUTF8.toList
    match splitAt? boundary body with
    | none => incomplete
    | some (_, rest) => ofRest boundary (rest.length + 1) rest

end Form

end CodeAppraisal.Service
