import CodeAppraisal.Json.Basic
import CodeAppraisal.Json.Scalar

/-!
Reading JSON values. The fields of an object are kept in the order of their names, the last of those
with the same name.
-/
namespace CodeAppraisal.Json

namespace Reader

def ofNumeral : Numeral → Json Float
  | .whole n => .whole n
  | .real x => .real x

def scalar (first : UInt8) : Reader (Json Float) :=
  if first = 110 then do
    advance
    word [117, 108, 108]
    return .null
  else if first = 116 then do
    advance
    word [114, 117, 101]
    return .bool true
  else if first = 102 then do
    advance
    word [97, 108, 115, 101]
    return .bool false
  else if first = 34 then do
    advance
    return .string (← stringRest)
  else if first = 45 then do
    advance
    return ofNumeral (← numeral true)
  else if isDigitByte first then return ofNumeral (← numeral false)
  else failNext .expectedValue

def hasItem (first : Bool) : Reader Bool := do
  match ← peekValue with
  | none => failNext .endInList
  | some b =>
    if b = 93 then return false
    else if first then return true
    else if b = 44 then do
      advance
      match ← peekValue with
      | some b => if b = 93 then failNext .trailingComma else return true
      | none => failNext .endInValue
    else failNext .expectedListEnd

def hasField (first : Bool) : Reader Bool := do
  match ← peekValue with
  | none => failNext .endInObject
  | some b =>
    if b = 125 then return false
    else if first then if b = 34 then return true else failNext .keyNotString
    else if b = 44 then do
      advance
      match ← peekValue with
      | some b =>
        if b = 34 then return true
        else if b = 125 then failNext .trailingComma
        else failNext .keyNotString
      | none => failNext .endInValue
    else failNext .expectedObjectEnd

def colon : Reader Unit := do
  match ← peekValue with
  | some b => if b = 58 then advance else failNext .expectedColon
  | none => failNext .endInObject

mutual

def value (fuel depth : Nat) : Reader (Json Float) :=
  match fuel with
  | 0 => failNext .endInValue
  | fuel + 1 => do
    match ← peekValue with
    | none => failNext .endInValue
    | some b =>
      if b = 91 then
        if depth ≤ 1 then failNext .tooDeep
        else do
          advance
          let items ← items fuel (depth - 1) true
          return .array items
      else if b = 123 then
        if depth ≤ 1 then failNext .tooDeep
        else do
          advance
          let fields ← fields fuel (depth - 1) true []
          return .object fields
      else scalar b

def items (fuel depth : Nat) (first : Bool) : Reader (List (Json Float)) :=
  match fuel with
  | 0 => failNext .endInList
  | fuel + 1 => do
    if ← hasItem first then do
      let v ← value fuel depth
      let rest ← items fuel depth false
      return v :: rest
    else do
      advance
      return []

def fields (fuel depth : Nat) (first : Bool) (done : List (String × Json Float)) :
    Reader (List (String × Json Float)) :=
  match fuel with
  | 0 => failNext .endInObject
  | fuel + 1 => do
    if ← hasField first then do
      advance
      let name ← stringRest
      colon
      let v ← value fuel depth
      fields fuel depth false (insertField name v done)
    else do
      advance
      return done

end

def document : Reader (Json Float) := do
  let n ← remaining
  let v ← value (2 * n + 2) 128
  match ← peekValue with
  | some _ => failNext .trailingCharacters
  | none => return v

end Reader

def ofBytes (bytes : List UInt8) : Except ReadError (Json Float) :=
  (Reader.document.run ⟨bytes, .start⟩).map (·.1)

def ofString (s : String) : Except ReadError (Json Float) := ofBytes s.toUTF8.toList

end CodeAppraisal.Json
