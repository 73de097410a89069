import CodeAppraisal.Parsing.Source

/-!
Tokens that depend on more than the text in front: ends of lines, changes of indentation, and the
parts of string literals. What they depend on is kept from token to token.
-/
namespace CodeAppraisal.Parsing

structure Quote where
  mark : Char
  triple : Bool
  formatted : Bool
  raw : Bool
  bytes : Bool
  deriving DecidableEq, Repr, Inhabited

/-- What is open at a place: blocks, by their indentation, and literals; innermost first. -/
structure Layout where
  indents : List Nat
  quotes : List Quote
  inFormatted : Bool
  deriving DecidableEq, Repr, Inhabited

inductive LayoutToken where
  | newline
  | indent
  | dedent
  | stringStart
  | stringContent
  | escapedBrace
  | stringEnd
  deriving DecidableEq, Repr, Inhabited

structure Expected where
  newline : Bool
  indent : Bool
  dedent : Bool
  stringStart : Bool
  stringContent : Bool
  escapedBrace : Bool
  exceptWord : Bool
  closing : Bool

/-- The parser is lost: it would take a string's content and a new block alike. -/
def Expected.lost (e : Expected) : Bool := e.stringContent && e.indent

structure LayoutMatch where
  token : LayoutToken
  start : Position
  stop : Position
  layout : Layout

namespace Layout

def initial : Layout := ⟨[0], [], false⟩

inductive Attempt where
  | found (m : LayoutMatch)
  | refused
  | passed (p : Position)

def escapedBrace (src : Source) (l : Layout) (p : Position) : Attempt :=
  let c := src.look p
  if c = '\x7b' || c = '\x7d' then
    match l.quotes with
    | q :: _ =>
      if q.formatted then
        let second := src.next p
        if src.look second = c then .found ⟨.escapedBrace, p, src.next second, l⟩ else .refused
      else .passed p
    | [] => .passed p
  else .passed p

/--
The content of the open literal up to an escape, a brace of a formatted literal or the closing
quote; with no content before it, the closing quote. What a backslash guards in a raw literal does
not count as content, but belongs to the token that follows.
-/
def content (src : Source) (l : Layout) (q : Quote) (start : Position) : Attempt :=
  go (src.left start + 1) start false
where
  upTo (p : Position) : Attempt := .found ⟨.stringContent, start, p, l⟩
  upToIf (any : Bool) (p : Position) : Attempt := if any then upTo p else .refused
  close (p : Position) : Attempt :=
    .found ⟨.stringEnd, start, p, { l with quotes := l.quotes.drop 1, inFormatted := false }⟩
  guarded (p : Position) : Position :=
    let p := src.next p
    let p := if src.look p = q.mark || src.look p = '\\' then src.next p else p
    if src.look p = '\r' then
      let p := src.next p
      if src.look p = '\n' then src.next p else p
    else if src.look p = '\n' then src.next p
    else p
  go : Nat → Position → Bool → Attempt
    | 0, p, _ => .passed p
    | fuel + 1, p, any =>
      let c := src.look p
      if c = '\x00' then .passed p
      else if q.formatted && (c = '\x7b' || c = '\x7d') then upToIf any p
      else if c = '\\' then
        if q.raw then go fuel (guarded p) any
        else
          let second := src.next p
          let named := src.look second = 'N' || src.look second = 'u' || src.look second = 'U'
          if q.bytes && named then go fuel (src.next (src.next second)) true
          else upToIf any p
      else if c = q.mark then
        if q.triple then
          let second := src.next p
          if src.look second = q.mark then
            let third := src.next second
            if src.look third = q.mark then
              if any then upTo p else close (src.next third)
            else upTo third
          else upTo second
        else if any then upTo p
        else close (src.next p)
      else if c = '\n' && any && !q.triple then .refused
      else go fuel (src.next p) true

structure Margin where
  place : Position
  newline : Bool
  indent : Nat
  comment : Option Nat

def margin (src : Source) (e : Expected) (start : Position) : Option Margin :=
  go (2 * src.left start + 2) ⟨start, false, 0, none⟩
where
  go : Nat → Margin → Option Margin
    | 0, m => some m
    | fuel + 1, m =>
      let c := src.look m.place
      let beyond := src.next m.place
      if src.atEnd m.place then some { m with indent := 0, newline := true }
      else if c = '\n' then go fuel { m with newline := true, indent := 0, place := beyond }
      else if c = ' ' then go fuel { m with indent := m.indent + 1, place := beyond }
      else if c = '\r' || c = '\x0c' then go fuel { m with indent := 0, place := beyond }
      else if c = '\t' then go fuel { m with indent := m.indent + 8, place := beyond }
      else if c = '#' && (e.indent || e.dedent || e.newline || e.exceptWord) then
        if !m.newline then none
        else
          let stop := src.skip (fun c => c ≠ '\n' && c ≠ '\x00') m.place
          go fuel
            { m with comment := m.comment <|> some m.indent, indent := 0, place := src.next stop }
      else if c = '\\' then
        let p := if src.look beyond = '\r' then src.next beyond else beyond
        if src.look p = '\n' || src.atEnd p then go fuel { m with place := src.next p } else none
      else some m

def atLineStart (src : Source) (e : Expected) (l : Layout) (start stop : Position) (m : Margin) :
    Option LayoutMatch :=
  if !m.newline then none
  else
    let here (t : LayoutToken) (l : Layout) : Option LayoutMatch := some ⟨t, start, stop, l⟩
    let c := src.look m.place
    let quoteNext := c = '"' || c = '\'' || c = Char.ofNat 96
    let newline := if e.newline && !e.lost then here .newline l else none
    match l.indents with
    | [] => newline
    | current :: outer =>
      if e.indent && m.indent > current then
        here .indent { l with indents := m.indent :: l.indents }
      else if (e.dedent || (!e.newline && !(e.stringStart && quoteNext) && !e.closing)) &&
          m.indent < current && !l.inFormatted && m.comment.all (· < current) then
        here .dedent { l with indents := outer }
      else newline

def opening (src : Source) (l : Layout) (start : Position) : Option LayoutMatch :=
  let (q, p) := flags (src.left start) ⟨'\x00', false, false, false, false⟩ start
  let c := src.look p
  let opened (q : Quote) (stop : Position) : Option LayoutMatch :=
    some ⟨.stringStart, start, stop,
      { l with quotes := q :: l.quotes, inFormatted := q.formatted }⟩
  if c = Char.ofNat 96 then opened { q with mark := c } (src.next p)
  else if c = '\'' || c = '"' then
    let first := src.next p
    let second := src.next first
    if src.look first = c && src.look second = c then
      opened { q with mark := c, triple := true } (src.next second)
    else opened { q with mark := c } first
  else none
where
  flags : Nat → Quote → Position → Quote × Position
    | 0, q, p => (q, p)
    | fuel + 1, q, p =>
      let c := src.look p
      if c = 'f' || c = 'F' || c = 't' || c = 'T' then
        flags fuel { q with formatted := true } (src.next p)
      else if c = 'r' || c = 'R' then flags fuel { q with raw := true } (src.next p)
      else if c = 'b' || c = 'B' then flags fuel { q with bytes := true } (src.next p)
      else if c = 'u' || c = 'U' then flags fuel q (src.next p)
      else (q, p)

def scan (src : Source) (e : Expected) (l : Layout) (start : Position) : Option LayoutMatch :=
  match if e.escapedBrace && !e.lost then escapedBrace src l start else .passed start with
  | .found m => some m
  | .refused => none
  | .passed _ =>
    match inside with
    | .found m => some m
    | .refused => none
    | .passed p =>
      match margin src e p with
      | none => none
      | some m =>
        match atLineStart src e l start p m with
        | some found => some found
        | none => if m.comment.isNone && e.stringStart then opening src l m.place else none
where
  inside : Attempt :=
    match l.quotes with
    | q :: _ => if e.stringContent && !e.lost then content src l q start else .passed start
    | [] => .passed start

end Layout

end CodeAppraisal.Parsing
