import CodeAppraisal.Decimal.Shortest
import CodeAppraisal.Json.Basic
import CodeAppraisal.Quantity
import CodeAppraisal.Text.Quoted

/-!
Reading typed values out of JSON values, and why that can fail. A record is an object with its
fields, or a list of them in order.
-/
namespace CodeAppraisal.Json

inductive DecodeError (α : Type) where
  | invalidType (found : Json α) (expected : String)
  | invalidValue (found : Json α) (expected : String)
  | invalidLength (length : Nat) (expected : String)
  | missingField (name : String)
  | unknownVariant (found : String) (expected : List String)
  | noForm (type : String)

abbrev Decoder (α β : Type) := Json α → Except (DecodeError α) β

def describe : Json Float → String
  | .null => "null"
  | .bool b => s!"boolean `{b}`"
  | .whole n => s!"integer `{n}`"
  | .real x =>
    let text := (Decimal.shortest? x).getD "NaN"
    s!"floating point `{text}`"
  | .string s => "string " ++ Text.quoted s
  | .array _ => "sequence"
  | .object _ => "map"

def alternatives (names : List String) : String :=
  match names.map fun n => s!"`{n}`" with
  | [a] => a
  | [a, b] => s!"{a} or {b}"
  | all => "one of " ++ String.intercalate ", " all

def DecodeError.message : DecodeError Float → String
  | .invalidType found expected => s!"invalid type: {describe found}, expected {expected}"
  | .invalidValue found expected => s!"invalid value: {describe found}, expected {expected}"
  | .invalidLength n expected => s!"invalid length {n}, expected {expected}"
  | .missingField name => s!"missing field `{name}`"
  | .unknownVariant found expected =>
    s!"unknown variant `{found}`, expected {alternatives expected}"
  | .noForm type => s!"data did not match any variant of untagged enum {type}"

variable {α β : Type}

def decodeNat (type : String) (bound : Nat) : Decoder α Nat
  | .whole n =>
    if 0 ≤ n && n.toNat < bound then .ok n.toNat else .error (.invalidValue (.whole n) type)
  | j => .error (.invalidType j type)

def decodeSize : Decoder α Nat := decodeNat "usize" (Nat.pow 2 64)

def decodeWord : Decoder α Nat := decodeNat "u32" (Nat.pow 2 32)

def decodeReal [Quantity α] : Decoder α α
  | .real x => .ok x
  | .whole n => .ok (if 0 ≤ n then Quantity.ofNat n.toNat else 0.0 - Quantity.ofNat (-n).toNat)
  | j => .error (.invalidType j "f64")

def decodeBool : Decoder α Bool
  | .bool b => .ok b
  | j => .error (.invalidType j "a boolean")

def decodeString : Decoder α String
  | .string s => .ok s
  | j => .error (.invalidType j "a string")

def decodeOption (decode : Decoder α β) : Decoder α (Option β)
  | .null => .ok none
  | j => (decode j).map some

def decodeList (decode : Decoder α β) : Decoder α (List β)
  | .array items => items.mapM decode
  | j => .error (.invalidType j "a sequence")

def decodeVariant (variants : List (String × β)) : Decoder α β
  | .string s => ofName s
  | .object [(name, v)] => do
    let b ← ofName name
    match v with
    | .null => return b
    | v => throw (.invalidType v "unit")
  | .object fields => .error (.invalidValue (.object fields) "map with a single key")
  | j => .error (.invalidType j "string or map")
where
  ofName (name : String) : Except (DecodeError α) β :=
    match variants.lookup name with
    | some b => .ok b
    | none => .error (.unknownVariant name (variants.map (·.1)))

structure FieldShape (α : Type) where
  name : String
  required : Bool
  fault? : Json α → Option (DecodeError α)

namespace FieldShape

def faultOf (decode : Decoder α β) (j : Json α) : Option (DecodeError α) :=
  match decode j with
  | .ok _ => none
  | .error e => some e

def mandatory (name : String) (decode : Decoder α β) : FieldShape α :=
  ⟨name, true, faultOf decode⟩

def optional (name : String) (decode : Decoder α β) : FieldShape α :=
  ⟨name, false, faultOf decode⟩

end FieldShape

structure Shape (α : Type) where
  name : String
  fields : List (FieldShape α)

namespace Shape

/-- Why the fields of an object are not those of a record: a value that is none of its field, else a
field that is missing. Other fields do not matter. -/
def objectFault? (s : Shape α) (fields : List (String × Json α)) : Option (DecodeError α) :=
  let wrong := fields.findSome? fun (name, v) =>
    (s.fields.find? (·.name == name)).bind (·.fault? v)
  let missing := s.fields.find? fun f => f.required && (field? fields f.name).isNone
  wrong <|> missing.map fun f => .missingField f.name

def named (s : Shape α) (n : Nat) :
    List (FieldShape α) → List (Json α) → Except (DecodeError α) (List (String × Json α))
  | f :: fs, v :: vs =>
    match f.fault? v with
    | some e => .error e
    | none => do return (f.name, v) :: (← named s (n + 1) fs vs)
  | f :: fs, [] =>
    if f.required then
      let count := s.fields.length
      let noun := if count = 1 then "element" else "elements"
      .error (.invalidLength n s!"struct {s.name} with {count} {noun}")
    else named s (n + 1) fs []
  | [], [] => .ok []
  | [], v :: vs => .error (.invalidLength (n + (v :: vs).length) "fewer elements in array")

def ofObject (s : Shape α) (fields : List (String × Json α)) :
    Except (DecodeError α) (List (String × Json α)) :=
  match s.objectFault? fields with
  | some e => .error e
  | none => .ok fields

def read (s : Shape α) : Json α → Except (DecodeError α) (List (String × Json α))
  | .object fields => s.ofObject fields
  | .array items => s.named 0 s.fields items
  | j => .error (.invalidType j s!"struct {s.name}")

end Shape

def get (fields : List (String × Json α)) (name : String) (decode : Decoder α β) :
    Except (DecodeError α) β :=
  match field? fields name with
  | some v => decode v
  | none => .error (.missingField name)

def getD (fields : List (String × Json α)) (name : String) (decode : Decoder α β)
    (missing : β) : Except (DecodeError α) β :=
  match field? fields name with
  | some v => decode v
  | none => .ok missing

def ofReal [Quantity α] (x : α) : Json α := if Quantity.isFinite x then .real x else .null

def ofNat (n : Nat) : Json α := .whole n

def ofStrings (ss : List String) : Json α := .array (ss.map .string)

end CodeAppraisal.Json
