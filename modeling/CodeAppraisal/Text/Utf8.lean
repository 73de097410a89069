/-!
Texts as bytes, and where bytes are no text.
-/
namespace CodeAppraisal.Text

inductive Utf8Fault where
  | invalid (length index : Nat)
  | incomplete (index : Nat)
  deriving DecidableEq, Repr

def Utf8Fault.message : Utf8Fault → String
  | .invalid length index => s!"invalid utf-8 sequence of {length} bytes from index {index}"
  | .incomplete index => s!"incomplete utf-8 byte sequence from index {index}"

structure ByteRange where
  low : UInt8
  high : UInt8

def ByteRange.contains (r : ByteRange) (b : UInt8) : Bool := r.low ≤ b && b ≤ r.high

def continuation : ByteRange := ⟨0x80, 0xbf⟩

/-- Which bytes have to follow the first byte of a character; none if it begins no character. No
character has a longer form than it needs, none is a surrogate, and none lies beyond the last. -/
def followers (first : UInt8) : Option (List ByteRange) :=
  if first < 0x80 then some []
  else if first < 0xc2 then none
  else if first < 0xe0 then some [continuation]
  else if first = 0xe0 then some [⟨0xa0, 0xbf⟩, continuation]
  else if first = 0xed then some [⟨0x80, 0x9f⟩, continuation]
  else if first < 0xf0 then some [continuation, continuation]
  else if first = 0xf0 then some [⟨0x90, 0xbf⟩, continuation, continuation]
  else if first < 0xf4 then some [continuation, continuation, continuation]
  else if first = 0xf4 then some [⟨0x80, 0x8f⟩, continuation, continuation]
  else none

def followFault? (index length : Nat) : List ByteRange → List UInt8 → Option Utf8Fault
  | [], _ => none
  | _ :: _, [] => some (.incomplete index)
  | r :: rs, b :: bs =>
    if r.contains b then followFault? index (length + 1) rs bs
    else some (.invalid length index)

def utf8FaultFrom? (index : Nat) (bytes : List UInt8) : Option Utf8Fault :=
  match bytes with
  | [] => none
  | b :: bs =>
    match followers b with
    | none => some (.invalid 1 index)
    | some rs =>
      match followFault? index 1 rs bs with
      | some fault => some fault
      | none => utf8FaultFrom? (index + 1 + rs.length) (bs.drop rs.length)
termination_by bytes.length
decreasing_by simp only [List.length_drop, List.length_cons]; omega

def ofUtf8 (bytes : ByteArray) : Except Utf8Fault String :=
  match String.fromUTF8? bytes with
  | some s => .ok s
  | none => .error ((utf8FaultFrom? 0 bytes.toList).getD (.incomplete bytes.size))

end CodeAppraisal.Text
