import CodeAppraisal.Toml.Number

/-!
Reading TOML documents.
-/
namespace CodeAppraisal.Toml

namespace Scan

def gap : Nat → Scan Unit
  | 0 => failure
  | fuel + 1 => do
    blanks
    match ← peek with
    | some '#' => do
      comment
      newline
      gap fuel
    | some '\n' | some '\r' => do
      newline
      gap fuel
    | _ => return

mutual

def value (fuel depth : Nat) : Scan Value :=
  match fuel with
  | 0 => failure
  | fuel + 1 => do
    match ← peek with
    | some '"' => return .string (← string '"')
    | some '\'' => return .string (← string '\'')
    | some '[' =>
      if depth = 0 then failure
      else do
        char '['
        return .array (← items fuel (depth - 1))
    | some 't' => do
      text ['t', 'r', 'u', 'e']
      return .boolean true
    | some 'f' => do
      text ['f', 'a', 'l', 's', 'e']
      return .boolean false
    | some c =>
      if c == Char.ofNat 123 then
        if depth = 0 then failure
        else do
          char c
          blanks
          if ← hasText [Char.ofNat 125] then return .table []
          else
            let pairs ← pairs fuel (depth - 1)
            match ofAssignments pairs with
            | some v => return v
            | none => failure
      else numeric
    | none => failure

def items (fuel depth : Nat) : Scan (List Value) :=
  match fuel with
  | 0 => failure
  | fuel + 1 => do
    gap (fuel + 1)
    if ← hasText [']'] then return []
    else do
      let v ← value fuel depth
      gap (fuel + 1)
      if ← hasText [','] then return v :: (← items fuel depth)
      else do
        char ']'
        return [v]

def pairs (fuel depth : Nat) : Scan (List (List String × Value)) :=
  match fuel with
  | 0 => failure
  | fuel + 1 => do
    let keys ← path
    char '='
    blanks
    let v ← value fuel depth
    blanks
    if ← hasText [','] then return (keys, v) :: (← pairs fuel depth)
    else do
      char (Char.ofNat 125)
      return [(keys, v)]

end

def statement : Scan Statement := do
  if ← hasText ['[', '['] then do
    let keys ← path
    text [']', ']']
    return .repeatedHeader keys
  else if ← hasText ['['] then do
    let keys ← path
    char ']'
    return .header keys
  else do
    let keys ← path
    char '='
    blanks
    return .assignment keys (← value ((← remaining) + 1) 79)

def statements : Nat → Scan (List Statement)
  | 0 => failure
  | fuel + 1 => do
    blanks
    match ← peek with
    | none => return []
    | some '#' | some '\n' | some '\r' => do
      lineEnd
      statements fuel
    | some _ => do
      let s ← statement
      lineEnd
      return s :: (← statements fuel)

end Scan

def parse (document : String) : Option (List (String × Value)) := do
  let cs := document.toList
  let cs := if cs.head? = some (Char.ofNat 0xfeff) then cs.tail else cs
  let (statements, _) ← (Scan.statements (cs.length + 1)).run cs
  ofStatements statements

end CodeAppraisal.Toml
