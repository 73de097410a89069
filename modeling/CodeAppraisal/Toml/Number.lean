import CodeAppraisal.Decimal.Scientific
import CodeAppraisal.Toml.Scan
import CodeAppraisal.Toml.Table

/-!
TOML numbers, dates and times.
-/
namespace CodeAppraisal.Toml.Scan

def moreDigits (kind : Char → Bool) : List Char → List Char × List Char
  | '_' :: c :: rest =>
    if kind c then
      let (ds, rest) := moreDigits kind rest
      (c :: ds, rest)
    else ([], '_' :: c :: rest)
  | c :: rest =>
    if kind c then
      let (ds, rest) := moreDigits kind rest
      (c :: ds, rest)
    else ([], c :: rest)
  | [] => ([], [])

def digitsOf (kind : Char → Bool) : Scan (List Char) := do
  let c ← one kind
  let more ← fun s => some (moreDigits kind s)
  return c :: more

def sign : Scan Bool := do
  if ← hasText ['-'] then return true
  else
    let _ ← hasText ['+']
    return false

def decimalDigits : Scan (List Char) := do
  if ← hasText ['0'] then return ['0']
  else digitsOf Char.isDigit

def inWord (negative : Bool) (n : Nat) : Scan Int :=
  if negative then if n ≤ Nat.pow 2 63 then return -n else failure
  else if n < Nat.pow 2 63 then return n
  else failure

def integer : Scan Int := do
  if ← hasText ['0', 'x'] then inWord false (digitsValue 16 (← digitsOf isHexDigit))
  else if ← hasText ['0', 'o'] then
    inWord false (digitsValue 8 (← digitsOf fun c => '0' ≤ c && c ≤ '7'))
  else if ← hasText ['0', 'b'] then
    inWord false (digitsValue 2 (← digitsOf fun c => c == '0' || c == '1'))
  else do
    let negative ← sign
    inWord negative (digitsValue 10 (← decimalDigits))

def exponent : Scan Int := do
  let negative ← sign
  let n := digitsValue 10 (← digitsOf Char.isDigit)
  return if negative then -(n : Int) else n

def hasExponent : Scan Bool := do
  if ← hasText ['e'] then return true
  else hasText ['E']

def fractional : Scan Float := do
  let negative ← sign
  let whole ← decimalDigits
  let x ←
    if ← hasText ['.'] then do
      let fraction ← digitsOf Char.isDigit
      let m := digitsValue 10 (whole ++ fraction)
      let e : Int := -fraction.length
      if ← hasExponent then pure (Decimal.ofScientific m (e + (← exponent)))
      else pure (Decimal.ofScientific m e)
    else if ← hasExponent then
      pure (Decimal.ofScientific (digitsValue 10 whole) (← exponent))
    else failure
  if x.isInf then failure
  else return if negative then -x else x

def special : Scan Float := do
  let negative ← sign
  let x ←
    if ← hasText ['i', 'n', 'f'] then pure (1.0 / 0.0)
    else do
      text ['n', 'a', 'n']
      pure (0.0 / 0.0)
  return if negative then -x else x

/-! ### Dates and times -/

def bounded (digits low high : Nat) : Scan Nat := fun s =>
  let ds := s.take digits
  let n := digitsValue 10 ds
  if ds.length = digits && ds.all Char.isDigit && low ≤ n && n ≤ high then
    some (n, s.drop digits)
  else none

def isLeapYear (y : Nat) : Bool := y % 4 = 0 && (y % 100 ≠ 0 || y % 400 = 0)

def daysOfMonth (year month : Nat) : Nat :=
  if month = 2 then if isLeapYear year then 29 else 28
  else if [4, 6, 9, 11].contains month then 30
  else 31

def date : Scan Unit := do
  let year ← bounded 4 0 9999
  char '-'
  let month ← bounded 2 1 12
  char '-'
  let _ ← bounded 2 1 (daysOfMonth year month)

def time : Scan Unit := do
  let _ ← bounded 2 0 23
  char ':'
  let _ ← bounded 2 0 59
  char ':'
  let _ ← bounded 2 0 60
  if ← hasText ['.'] then
    let _ ← some₁ Char.isDigit

def offset : Scan Unit := do
  let c ← one fun c => c == 'Z' || c == 'z' || c == '+' || c == '-'
  if c == '+' || c == '-' then do
    let _ ← bounded 2 0 23
    char ':'
    let _ ← bounded 2 0 59

def optionally (p : Scan Unit) : Scan Unit := p <|> pure ()

def moment : Scan Unit :=
  (do
    date
    optionally do
      let _ ← one fun c => c == 'T' || c == 't' || c == ' '
      time
      optionally offset) <|> time

def momentText : Scan String := do
  let before ← get
  moment
  let after ← get
  return String.ofList (before.take (before.length - after.length))

def numeric : Scan Value :=
  Value.moment <$> momentText <|> Value.real <$> fractional <|> Value.real <$> special <|>
    Value.integer <$> integer

end CodeAppraisal.Toml.Scan
