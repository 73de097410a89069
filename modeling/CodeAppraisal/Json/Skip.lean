import CodeAppraisal.Json.Scalar

/-!
Passing over a JSON value of which nothing is wanted. Values may lie in each other to any depth,
since those not yet ended are kept in a list.
-/
namespace CodeAppraisal.Json.Reader

def skipEscape : Reader Unit := do
  let b ← nextInString
  if b = 117 then do
    let _ ← hexEscape
    return
  else if [34, 92, 47, 98, 102, 110, 114, 116].contains b then return
  else fail .invalidEscape

def skipString : Nat → Reader Unit
  | 0 => fail .endInString
  | fuel + 1 => do
    let b ← peekInString
    if b = 34 then advance
    else if b = 92 then do
      advance
      skipEscape
      skipString fuel
    else if b < 32 then fail .controlCharacter
    else do
      advance
      skipString fuel

def skipStringRest : Reader Unit := do skipString ((← remaining) + 1)

def skipExponentDigits : Reader Unit := do
  match ← next with
  | some b =>
    if isDigitByte b then do
      let _ ← takeDigits
      return
    else fail .invalidNumber
  | none => fail .invalidNumber

def skipExponent : Reader Unit := do
  match ← peek with
  | some b =>
    if b = 101 || b = 69 then do
      advance
      match ← peek with
      | some s => if s = 43 || s = 45 then advance
      | none => pure ()
      skipExponentDigits
  | none => return

def skipFraction : Reader Unit := do
  match ← peek with
  | some b =>
    if b = 46 then do
      advance
      if (← takeDigits).isEmpty then failNext .invalidNumber
    skipExponent
  | none => return

def skipNumber : Reader Unit := do
  match ← next with
  | some b =>
    if b = 48 then do
      match ← peek with
      | some d => if isDigitByte d then failNext .invalidNumber
      | none => pure ()
      skipFraction
    else if isDigitByte b then do
      let _ ← takeDigits
      skipFraction
    else fail .invalidNumber
  | none => fail .invalidNumber

inductive Frame where
  | list
  | object
  deriving DecidableEq, Repr

namespace Frame

def closing : Frame → UInt8
  | list => 93
  | object => 125

def endOfText : Frame → Problem
  | list => .endInList
  | object => .endInObject

def unended : Frame → Problem
  | list => .expectedListEnd
  | object => .expectedObjectEnd

end Frame

def skipName : Reader Unit := do
  match ← peekValue with
  | some b => if b = 34 then advance else failNext .keyNotString
  | none => failNext .endInObject
  skipStringRest
  match ← peekValue with
  | some b => if b = 58 then advance else failNext .expectedColon
  | none => failNext .endInObject

def skipLead : Frame → Reader Unit
  | .list => return
  | .object => skipName

def skipOpening (first : UInt8) : Reader (Option Frame) := do
  if first = 91 then do
    advance
    return some .list
  else if first = 123 then do
    advance
    return some .object
  else if first = 110 then do
    advance
    word [117, 108, 108]
  else if first = 116 then do
    advance
    word [114, 117, 101]
  else if first = 102 then do
    advance
    word [97, 108, 115, 101]
  else if first = 34 then do
    advance
    skipStringRest
  else if first = 45 then do
    advance
    skipNumber
  else if isDigitByte first then skipNumber
  else failNext .expectedValue
  return none

mutual

def skipFrom : Nat → List Frame → Reader Unit
  | 0, _ => failNext .endInValue
  | fuel + 1, frames => do
    match ← peekValue with
    | none => failNext .endInValue
    | some b =>
      match ← skipOpening b with
      | none => skipBehind fuel frames
      | some f =>
        match ← peekValue with
        | none => failNext f.endOfText
        | some b =>
          if b = f.closing then do
            advance
            skipBehind fuel frames
          else do
            skipLead f
            skipFrom fuel (f :: frames)

def skipBehind : Nat → List Frame → Reader Unit
  | 0, _ => failNext .endInValue
  | _, [] => return
  | fuel + 1, f :: frames => do
    match ← peekValue with
    | none => failNext f.endOfText
    | some b =>
      if b = 44 then do
        advance
        skipLead f
        skipFrom fuel (f :: frames)
      else if b = f.closing then do
        advance
        skipBehind fuel frames
      else failNext f.unended

end

def skipValue : Reader Unit := do skipFrom (2 * (← remaining) + 2) []

end CodeAppraisal.Json.Reader
