/-!
Source text and the places in it.
-/
namespace CodeAppraisal.Parsing

/-- A place between two characters. Rows and columns count from zero, columns in bytes. -/
structure Position where
  index : Nat
  byte : Nat
  row : Nat
  column : Nat
  deriving DecidableEq, Repr, Inhabited

namespace Position

def zero : Position := ⟨0, 0, 0, 0⟩

def after (p : Position) (c : Char) : Position :=
  if c = '\n' then ⟨p.index + 1, p.byte + 1, p.row + 1, 0⟩
  else ⟨p.index + 1, p.byte + c.utf8Size, p.row, p.column + c.utf8Size⟩

end Position

structure Source where
  chars : Array Char

namespace Source

def ofString (s : String) : Source := ⟨s.toList.toArray⟩

def atEnd (s : Source) (p : Position) : Bool := p.index ≥ s.chars.size

def look (s : Source) (p : Position) : Char := s.chars.getD p.index '\x00'

def next (s : Source) (p : Position) : Position :=
  if s.atEnd p then p else p.after (s.look p)

def left (s : Source) (p : Position) : Nat := s.chars.size - p.index

def skipWhile (s : Source) (f : Char → Bool) : Nat → Position → Position
  | 0, p => p
  | n + 1, p => if !s.atEnd p && f (s.look p) then skipWhile s f n (s.next p) else p

def skip (s : Source) (f : Char → Bool) (p : Position) : Position := s.skipWhile f (s.left p) p

def matchText (s : Source) : List Char → Position → Option Position
  | [], p => some p
  | c :: rest, p => if !s.atEnd p && s.look p = c then s.matchText rest (s.next p) else none

def slice (s : Source) (start stop : Position) : List Char :=
  (s.chars.extract start.index stop.index).toList

end Source

end CodeAppraisal.Parsing
