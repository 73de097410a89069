import CodeAppraisal.Grammar.Rule
import CodeAppraisal.Parsing.Source
import CodeAppraisal.Text.Name

/-!
The texts that belong to each class of tokens. Each function gives the end of the longest such text
at a place.
-/
namespace CodeAppraisal.Parsing

open CodeAppraisal.Grammar (TokenClass)

namespace Lexeme

def isSeparator (c : Char) : Bool :=
  c == ' ' || (9 ≤ c.toNat && c.toNat ≤ 13) || c == '\u200b' || c == '\u2060' || c == '\ufeff'

def one (src : Source) (f : Char → Bool) (p : Position) : Option Position :=
  if !src.atEnd p && f (src.look p) then some (src.next p) else none

def exactly (src : Source) (f : Char → Bool) : Nat → Position → Option Position
  | 0, p => some p
  | n + 1, p => (one src f p).bind (exactly src f n)

def maybe (src : Source) (f : Char → Bool) (p : Position) : Position := (one src f p).getD p

def isHex (c : Char) : Bool :=
  c.isDigit || ('a' ≤ c && c ≤ 'f') || ('A' ≤ c && c ≤ 'F')

def isOctal (c : Char) : Bool := '0' ≤ c && c ≤ '7'

def isBinary (c : Char) : Bool := c == '0' || c == '1'

def identifier (src : Source) (p : Position) : Option Position :=
  (one src Text.isNameStart p).map (src.skip Text.isNamePart)

def digits (src : Source) (p : Position) : Option Position :=
  (one src Char.isDigit p).map (go (src.left p))
where
  go : Nat → Position → Position
    | 0, p => p
    | fuel + 1, p =>
      match one src Char.isDigit p with
      | some q => go fuel q
      | none =>
        match one src (· == '_') p with
        | some q =>
          match one src Char.isDigit q with
          | some r => go fuel r
          | none => q
        | none => p

def groups (src : Source) (f : Char → Bool) (p : Position) : Option Position :=
  (group p).map (go (src.left p))
where
  group (p : Position) : Option Position := one src f (maybe src (· == '_') p)
  go : Nat → Position → Position
    | 0, p => p
    | fuel + 1, p =>
      match group p with
      | some q => go fuel q
      | none => p

def isLong (c : Char) : Bool := c == 'L' || c == 'l'

def isImaginary (c : Char) : Bool := c == 'j' || c == 'J'

def integer (src : Source) (p : Position) : Option Position :=
  (based 'x' isHex <|> based 'o' isOctal <|> based 'b' isBinary) <|> decimal
where
  based (letter : Char) (f : Char → Bool) : Option Position :=
    (one src (· == '0') p).bind fun q =>
      (one src (fun c => c == letter || c == letter.toUpper) q).bind fun q =>
        (groups src f q).map (maybe src isLong)
  decimal : Option Position :=
    (digits src p).map fun q => maybe src (fun c => isLong c || isImaginary c) q

def exponent (src : Source) (p : Position) : Option Position :=
  (one src (fun c => c == 'e' || c == 'E') p).bind fun q =>
    digits src (maybe src (fun c => c == '+' || c == '-') q)

def float (src : Source) (p : Position) : Option Position :=
  (withPoint <|> withExponent).map (maybe src isImaginary)
where
  withPoint : Option Position :=
    let whole := digits src p
    (one src (· == '.') (whole.getD p)).bind fun q =>
      match whole, digits src q with
      | none, none => none
      | _, fraction =>
        let q := fraction.getD q
        some ((exponent src q).getD q)
  withExponent : Option Position := (digits src p).bind (exponent src)

def isOnLine (c : Char) : Bool := c != '\n' && c != '\x00'

def comment (src : Source) (p : Position) : Option Position :=
  (one src (· == '#') p).map (src.skip isOnLine)

def lineBreak (src : Source) (p : Position) : Option Position :=
  one src (· == '\n') (maybe src (· == '\r') p)

def lineJoin (src : Source) (p : Position) : Option Position :=
  (one src (· == '\\') p).bind fun q => lineBreak src q <|> one src (· == '\x00') q

def octalEscape (src : Source) (p : Position) : Option Position :=
  (one src Char.isDigit p).map fun q => maybe src Char.isDigit (maybe src Char.isDigit q)

def isCodeName (c : Char) : Bool := c != '\x7d' && c != '\x00'

def escape (src : Source) (p : Position) : Option Position :=
  (one src (· == '\\') p).bind fun q =>
    let after (letter : Char) := one src (· == letter) q
    (after 'u').bind (exactly src isHex 4) <|>
    (after 'U').bind (exactly src isHex 8) <|>
    (after 'x').bind (exactly src isHex 2) <|>
    octalEscape src q <|>
    lineBreak src q <|>
    one src (fun c => "'\"abfrntv\\".contains c) q <|>
    (after 'N').bind fun q =>
      (one src (· == '\x7b') q).bind fun q =>
        (one src isCodeName q).bind fun q => one src (· == '\x7d') (src.skip isCodeName q)

def conversion (src : Source) (p : Position) : Option Position :=
  (one src (· == '!') p).bind (one src fun c => 'a' ≤ c && c ≤ 'z')

def isFormatText (c : Char) : Bool := c != '\x7b' && c != '\x7d' && isOnLine c

def formatText (src : Source) (p : Position) : Option Position :=
  (one src isFormatText p).map (src.skip isFormatText)

def ofClass (src : Source) (p : Position) : TokenClass → Option Position
  | .identifier => identifier src p
  | .integer => integer src p
  | .float => float src p
  | .comment => comment src p
  | .lineJoin => lineJoin src p
  | .escape => escape src p
  | .loneBackslash => one src (· == '\\') p
  | .conversion => conversion src p
  | .formatText => formatText src p

end Lexeme

end CodeAppraisal.Parsing
