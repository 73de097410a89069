import CodeAppraisal.Text.CodePointSet

/-!
White space and lines.
-/
namespace CodeAppraisal.Text

def blanks : CodePointSet := ⟨#[
  0x9, 0xe, 0x20, 0x21, 0x85, 0x86, 0xa0, 0xa1, 0x1680, 0x1681, 0x2000, 0x200b, 0x2028, 0x202a,
  0x202f, 0x2030, 0x205f, 0x2060, 0x3000, 0x3001]⟩

def isBlank (c : Char) : Bool :=
  if c.toNat < 128 then c == ' ' || (9 ≤ c.toNat && c.toNat ≤ 13) else blanks.contains c

def trimStart (s : List Char) : List Char := s.dropWhile isBlank

def trimEnd (s : List Char) : List Char := (s.reverse.dropWhile isBlank).reverse

def trim (s : List Char) : List Char := trimEnd (trimStart s)

def splitLines (s : List Char) : List (List Char) :=
  go [] s
where
  go (line : List Char) : List Char → List (List Char)
    | [] => [line.reverse]
    | c :: rest => if c = '\n' then line.reverse :: go [] rest else go (c :: line) rest

def dropReturn (line : List Char) : List Char :=
  if line.getLast? = some '\r' then line.dropLast else line

/--
The lines of a text: what ends in a line feed, without it and a carriage return before it, and what
is left after the last line feed, if anything is.
-/
def lines (s : List Char) : List (List Char) :=
  let parts := splitLines s
  (parts.dropLast.map dropReturn) ++
    match parts.getLast? with
    | some [] => []
    | some last => [last]
    | none => []

end CodeAppraisal.Text
