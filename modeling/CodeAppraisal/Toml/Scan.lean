/-!
The small pieces of TOML: blanks, comments, keys and strings.
-/
namespace CodeAppraisal.Toml

abbrev Scan := StateT (List Char) Option

namespace Scan

def peek : Scan (Option Char) := fun s => some (s.head?, s)

def remaining : Scan Nat := fun s => some (s.length, s)

def one (kind : Char → Bool) : Scan Char
  | c :: s => if kind c then some (c, s) else none
  | [] => none

def char (c : Char) : Scan Unit := do let _ ← one (· == c)

def text (t : List Char) : Scan Unit := fun s =>
  if t.isPrefixOf s then some ((), s.drop t.length) else none

def hasText (t : List Char) : Scan Bool := fun s =>
  if t.isPrefixOf s then some (true, s.drop t.length) else some (false, s)

def many (kind : Char → Bool) : Scan (List Char) := fun s =>
  some (s.takeWhile kind, s.dropWhile kind)

def some₁ (kind : Char → Bool) : Scan (List Char) := do
  let cs ← many kind
  if cs.isEmpty then failure else return cs

def isBlank (c : Char) : Bool := c == ' ' || c == '\t'

def blanks : Scan Unit := do let _ ← many isBlank

def isVisible (c : Char) : Bool := c == '\t' || (32 ≤ c.toNat && c.toNat ≠ 127)

def newline : Scan Unit := do
  if ← hasText ['\r', '\n'] then return
  else char '\n'

def comment : Scan Unit := do
  if ← hasText ['#'] then
    let _ ← many isVisible

def lineEnd : Scan Unit := do
  blanks
  comment
  if (← remaining) = 0 then return
  else newline

/-! ### Strings -/

def hexValue? (c : Char) : Option Nat :=
  if c.isDigit then some (c.toNat - 48)
  else if 97 ≤ c.toNat && c.toNat ≤ 102 then some (c.toNat - 87)
  else if 65 ≤ c.toNat && c.toNat ≤ 70 then some (c.toNat - 55)
  else none

def isHexDigit (c : Char) : Bool := (hexValue? c).isSome

def digitsValue (base : Nat) (cs : List Char) : Nat :=
  cs.foldl (fun n c => base * n + (hexValue? c).getD 0) 0

def codePoint (digits : Nat) : Scan Char := fun s =>
  let ds := s.take digits
  if ds.length = digits && ds.all isHexDigit then
    let n := digitsValue 16 ds
    if n < 0xd800 || (0xdfff < n && n < 0x110000) then some (Char.ofNat n, s.drop digits) else none
  else none

def escape : Scan Char := do
  match ← one fun _ => true with
  | 'b' => return Char.ofNat 8
  | 'f' => return Char.ofNat 12
  | 'n' => return '\n'
  | 'r' => return '\r'
  | 't' => return '\t'
  | '"' => return '"'
  | '\\' => return '\\'
  | 'u' => codePoint 4
  | 'U' => codePoint 8
  | _ => failure

def lineString (quote : Char) : Nat → Scan (List Char)
  | 0 => failure
  | fuel + 1 => do
    let c ← one isVisible
    if c == quote then return []
    else if c == '\\' && quote == '"' then return (← escape) :: (← lineString quote fuel)
    else return c :: (← lineString quote fuel)

def lineBreak? (s : List Char) : Option (List Char) := do
  let ((), rest) ← (do
    blanks
    newline).run s
  return skip rest
where
  skip : List Char → List Char
    | '\r' :: '\n' :: rest => skip rest
    | '\n' :: rest => skip rest
    | c :: rest => if isBlank c then skip rest else c :: rest
    | [] => []

def longEscape : Scan (List Char) := fun s =>
  match lineBreak? s with
  | some rest => some ([], rest)
  | none => (escape s).map fun (c, rest) => ([c], rest)

/-- A string over several lines after its three opening quotes. Up to two quotes may stand before
the three that close it. -/
def longString (quote : Char) : Nat → Scan (List Char)
  | 0 => failure
  | fuel + 1 => do
    let quotes := ((← get).takeWhile (· == quote)).length
    if quotes ≥ 3 then do
      let closing := min quotes 5
      modify (·.drop closing)
      return List.replicate (closing - 3) quote
    else if ← hasText ['\r', '\n'] then return '\n' :: (← longString quote fuel)
    else if ← hasText ['\n'] then return '\n' :: (← longString quote fuel)
    else do
      let c ← one isVisible
      if c == '\\' && quote == '"' then do
        let cs ← longEscape
        return cs ++ (← longString quote fuel)
      else return c :: (← longString quote fuel)

def string (quote : Char) : Scan String := do
  let fuel := (← remaining) + 1
  if ← hasText [quote, quote, quote] then do
    if ← hasText ['\r', '\n'] then pure ()
    else if ← hasText ['\n'] then pure ()
    return String.ofList (← longString quote fuel)
  else do
    char quote
    return String.ofList (← lineString quote fuel)

/-! ### Keys -/

def isKeyChar (c : Char) : Bool := c.isAlphanum || c == '-' || c == '_'

def simpleKey : Scan String := do
  match ← peek with
  | some '"' => do
    char '"'
    return String.ofList (← lineString '"' ((← remaining) + 1))
  | some '\'' => do
    char '\''
    return String.ofList (← lineString '\'' ((← remaining) + 1))
  | _ => return String.ofList (← some₁ isKeyChar)

def keys : Nat → Scan (List String)
  | 0 => failure
  | fuel + 1 => do
    blanks
    let key ← simpleKey
    blanks
    if ← hasText ['.'] then return key :: (← keys fuel)
    else return [key]

def path : Scan (List String) := keys 79

end Scan

end CodeAppraisal.Toml
