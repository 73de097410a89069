import CodeAppraisal.Decimal.Shortest
import CodeAppraisal.Json.Basic

/-!
JSON values as text, on one line or indented.
-/
namespace CodeAppraisal.Json

def hexDigit (n : Nat) : Char := (Nat.toDigits 16 n).headD '0'

def escaped (c : Char) : List Char :=
  match c with
  | '"' => ['\\', '"']
  | '\\' => ['\\', '\\']
  | '\n' => ['\\', 'n']
  | '\r' => ['\\', 'r']
  | '\t' => ['\\', 't']
  | c =>
    if c.toNat = 8 then ['\\', 'b']
    else if c.toNat = 12 then ['\\', 'f']
    else if c.toNat < 32 then
      ['\\', 'u', '0', '0', hexDigit (c.toNat / 16), hexDigit (c.toNat % 16)]
    else [c]

def quoted (s : String) : String := String.ofList ('"' :: s.toList.flatMap escaped ++ ['"'])

def numberText (x : Float) : String := (Decimal.shortest? x).getD "null"

def enclosed (opening closing : Char) (parts : List String) : String :=
  opening.toString ++ String.intercalate "," parts ++ closing.toString

mutual

def compact : Json Float → String
  | .null => "null"
  | .bool b => if b then "true" else "false"
  | .whole n => toString n
  | .real x => numberText x
  | .string s => quoted s
  | .array items => enclosed '[' ']' (compactItems items)
  | .object fields => enclosed (Char.ofNat 123) (Char.ofNat 125) (compactFields fields)

def compactItems : List (Json Float) → List String
  | [] => []
  | v :: rest => compact v :: compactItems rest

def compactFields : List (String × Json Float) → List String
  | [] => []
  | (name, v) :: rest => (quoted name ++ ":" ++ compact v) :: compactFields rest

end

def indentation (depth : Nat) : String := "\n" ++ String.ofList (List.replicate (2 * depth) ' ')

def enclosedLines (depth : Nat) (opening closing : Char) (parts : List String) : String :=
  if parts.isEmpty then opening.toString ++ closing.toString
  else
    opening.toString ++ String.intercalate "," (parts.map (indentation (depth + 1) ++ ·)) ++
      indentation depth ++ closing.toString

mutual

def indentedAt (depth : Nat) : Json Float → String
  | .array items => enclosedLines depth '[' ']' (indentedItems (depth + 1) items)
  | .object fields =>
    enclosedLines depth (Char.ofNat 123) (Char.ofNat 125) (indentedFields (depth + 1) fields)
  | v => compact v

def indentedItems (depth : Nat) : List (Json Float) → List String
  | [] => []
  | v :: rest => indentedAt depth v :: indentedItems depth rest

def indentedFields (depth : Nat) : List (String × Json Float) → List String
  | [] => []
  | (name, v) :: rest =>
    (quoted name ++ ": " ++ indentedAt depth v) :: indentedFields depth rest

end

def indented (v : Json Float) : String := indentedAt 0 v

end CodeAppraisal.Json
