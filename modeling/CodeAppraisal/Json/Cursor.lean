/-!
Reading a JSON text byte by byte, with the place reached and what can be wrong there.
-/
namespace CodeAppraisal.Json

structure Place where
  line : Nat
  column : Nat
  deriving DecidableEq, Repr

namespace Place

def start : Place := ⟨1, 0⟩

def after (p : Place) (b : UInt8) : Place :=
  if b = 10 then ⟨p.line + 1, 0⟩ else ⟨p.line, p.column + 1⟩

end Place

structure Cursor where
  rest : List UInt8
  place : Place

inductive Problem where
  | endInList
  | endInObject
  | endInString
  | endInValue
  | expectedColon
  | expectedListEnd
  | expectedObjectEnd
  | expectedWord
  | expectedValue
  | invalidEscape
  | invalidNumber
  | numberOutOfRange
  | invalidCodePoint
  | controlCharacter
  | keyNotString
  | loneSurrogate
  | trailingComma
  | trailingCharacters
  | endOfHexEscape
  | tooDeep
  | invalidType (found expected : String)
  | duplicateField (name : String)
  deriving DecidableEq, Repr

namespace Problem

def isData : Problem → Bool
  | .invalidType .. | .duplicateField _ => true
  | _ => false

def message : Problem → String
  | .endInList => "EOF while parsing a list"
  | .endInObject => "EOF while parsing an object"
  | .endInString => "EOF while parsing a string"
  | .endInValue => "EOF while parsing a value"
  | .expectedColon => "expected `:`"
  | .expectedListEnd => "expected `,` or `]`"
  | .expectedObjectEnd => "expected `,` or `\x7d`"
  | .expectedWord => "expected ident"
  | .expectedValue => "expected value"
  | .invalidEscape => "invalid escape"
  | .invalidNumber => "invalid number"
  | .numberOutOfRange => "number out of range"
  | .invalidCodePoint => "invalid unicode code point"
  | .controlCharacter => "control character (\\u0000-\\u001F) found while parsing a string"
  | .keyNotString => "key must be a string"
  | .loneSurrogate => "lone leading surrogate in hex escape"
  | .trailingComma => "trailing comma"
  | .trailingCharacters => "trailing characters"
  | .endOfHexEscape => "unexpected end of hex escape"
  | .tooDeep => "recursion limit exceeded"
  | .invalidType found expected => s!"invalid type: {found}, expected {expected}"
  | .duplicateField name => s!"duplicate field `{name}`"

end Problem

structure ReadError where
  problem : Problem
  place : Place
  deriving DecidableEq, Repr

def ReadError.message (e : ReadError) : String :=
  s!"{e.problem.message} at line {e.place.line} column {e.place.column}"

abbrev Reader := StateT Cursor (Except ReadError)

namespace Reader

def fail {β : Type} (p : Problem) : Reader β := fun c => .error ⟨p, c.place⟩

def failNext {β : Type} (p : Problem) : Reader β := fun c =>
  match c.rest with
  | b :: _ => .error ⟨p, c.place.after b⟩
  | [] => .error ⟨p, c.place⟩

def peek : Reader (Option UInt8) := fun c => .ok (c.rest.head?, c)

def advance : Reader Unit := fun c =>
  match c.rest with
  | b :: rest => .ok ((), ⟨rest, c.place.after b⟩)
  | [] => .ok ((), c)

def next : Reader (Option UInt8) := do
  let b ← peek
  advance
  return b

def remaining : Reader Nat := fun c => .ok (c.rest.length, c)

def Cursor.skip (kind : UInt8 → Bool) (c : Cursor) : Cursor :=
  go c.rest c.place
where
  go : List UInt8 → Place → Cursor
    | [], p => ⟨[], p⟩
    | b :: rest, p => if kind b then go rest (p.after b) else ⟨b :: rest, p⟩

def isBlankByte (b : UInt8) : Bool := b = 32 || b = 10 || b = 9 || b = 13

def skipBlanks : Reader Unit := fun c => .ok ((), Cursor.skip isBlankByte c)

def peekValue : Reader (Option UInt8) := do
  skipBlanks
  peek

def isDigitByte (b : UInt8) : Bool := 48 ≤ b && b ≤ 57

def takeDigits : Reader (List UInt8) := fun c =>
  .ok (c.rest.takeWhile isDigitByte, Cursor.skip isDigitByte c)

def word : List UInt8 → Reader Unit
  | [] => return
  | b :: bs => do
    match ← next with
    | none => fail .endInValue
    | some found => if found = b then word bs else fail .expectedWord

end Reader

def decimalValue (ds : List UInt8) : Nat := ds.foldl (fun n b => 10 * n + (b.toNat - 48)) 0

end CodeAppraisal.Json
