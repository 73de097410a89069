import CodeAppraisal.Decimal.Scientific
import CodeAppraisal.Json.Cursor

/-!
Reading JSON strings and numbers.
-/
namespace CodeAppraisal.Json.Reader

def hexValue? (b : UInt8) : Option Nat :=
  if 48 ≤ b && b ≤ 57 then some (b.toNat - 48)
  else if 97 ≤ b && b ≤ 102 then some (b.toNat - 87)
  else if 65 ≤ b && b ≤ 70 then some (b.toNat - 55)
  else none

def hexEscape : Reader Nat := fun c =>
  match c.rest with
  | b₁ :: b₂ :: b₃ :: b₄ :: rest =>
    let bytes := [b₁, b₂, b₃, b₄]
    let place := bytes.foldl Place.after c.place
    match bytes.mapM hexValue? with
    | some ds => .ok (ds.foldl (fun n d => 16 * n + d) 0, ⟨rest, place⟩)
    | none => .error ⟨.invalidEscape, place⟩
  | short => .error ⟨.endInString, short.foldl Place.after c.place⟩

def nextInString : Reader UInt8 := do
  match ← next with
  | some b => return b
  | none => fail .endInString

def peekInString : Reader UInt8 := do
  match ← peek with
  | some b => return b
  | none => fail .endInString

def pairByte (b : UInt8) : Reader Unit := do
  let found ← peekInString
  advance
  if found ≠ b then fail .endOfHexEscape

def isTrailing (n : Nat) : Bool := 0xdc00 ≤ n && n ≤ 0xdfff

def isLeading (n : Nat) : Bool := 0xd800 ≤ n && n ≤ 0xdbff

def unicodeEscape : Reader Char := do
  let n ← hexEscape
  if isTrailing n then fail .loneSurrogate
  else if isLeading n then do
    pairByte 92
    pairByte 117
    let low ← hexEscape
    if isTrailing low then return Char.ofNat ((n - 0xd800) * 1024 + (low - 0xdc00) + 0x10000)
    else fail .loneSurrogate
  else return Char.ofNat n

def escape : Reader (List UInt8) := do
  let b ← nextInString
  if b = 34 || b = 92 || b = 47 then return [b]
  else if b = 98 then return [8]
  else if b = 102 then return [12]
  else if b = 110 then return [10]
  else if b = 114 then return [13]
  else if b = 116 then return [9]
  else if b = 117 then do
    let c ← unicodeEscape
    return (String.singleton c).toUTF8.toList
  else fail .invalidEscape

def stringBytes : Nat → List UInt8 → Reader (List UInt8)
  | 0, _ => fail .endInString
  | fuel + 1, done => do
    match ← peek with
    | none => fail .endInString
    | some b =>
      if b = 34 then return done
      else if b = 92 then do
        advance
        let bytes ← escape
        stringBytes fuel (bytes.reverse ++ done)
      else if b < 32 then do
        advance
        fail .controlCharacter
      else do
        advance
        stringBytes fuel (b :: done)

def stringRest : Reader String := do
  let bytes ← stringBytes ((← remaining) + 1) []
  match String.fromUTF8? ⟨bytes.reverse.toArray⟩ with
  | some s => do
    advance
    return s
  | none => fail .invalidCodePoint

inductive Numeral where
  | whole (value : Int)
  | real (value : Float)

def realNumeral (negative : Bool) (m : Nat) (e : Int) : Reader Numeral := do
  let x := Decimal.ofScientific m e
  if x.isInf then fail .numberOutOfRange
  else return .real (if negative then -x else x)

def exponentRest : Reader Int := do
  advance
  let negative ← do
    match ← peek with
    | some 43 => do
      advance
      pure false
    | some 45 => do
      advance
      pure true
    | _ => pure false
  match ← next with
  | none => fail .endInValue
  | some b =>
    if isDigitByte b then do
      let n := decimalValue (b :: (← takeDigits))
      return if negative then -(n : Int) else n
    else fail .invalidNumber

def numeralRest (negative : Bool) (digits : List UInt8) : Reader Numeral := do
  let m := decimalValue digits
  match ← peek with
  | some 46 => do
    advance
    let fraction ← takeDigits
    if fraction.isEmpty then
      match ← peek with
      | some _ => failNext .invalidNumber
      | none => failNext .endInValue
    else do
      let m := decimalValue (digits ++ fraction)
      let e : Int := -fraction.length
      match ← peek with
      | some b =>
        if b = 101 || b = 69 then realNumeral negative m (e + (← exponentRest))
        else realNumeral negative m e
      | none => realNumeral negative m e
  | some b =>
    if b = 101 || b = 69 then realNumeral negative m (← exponentRest) else wholeNumeral m
  | none => wholeNumeral m
where
  /-- What does not fit a word is read as a real number, and so is a negative zero. -/
  wholeNumeral (m : Nat) : Reader Numeral :=
    if negative then
      if m = 0 || m > Nat.pow 2 63 then realNumeral true m 0 else return .whole (-m)
    else if m < Nat.pow 2 64 then return .whole m
    else realNumeral false m 0

def numeral (negative : Bool) : Reader Numeral := do
  match ← next with
  | none => fail .endInValue
  | some b =>
    if b = 48 then do
      match ← peek with
      | some d => if isDigitByte d then failNext .invalidNumber else numeralRest negative [b]
      | none => numeralRest negative [b]
    else if isDigitByte b then do numeralRest negative (b :: (← takeDigits))
    else fail .invalidNumber

end CodeAppraisal.Json.Reader
