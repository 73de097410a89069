import CodeAppraisal.Parsing.Lexeme
import CodeAppraisal.Parsing.Fragment

/-!
The next token of a text. Which one it is depends on what the parser could use: first the layout is
asked, then the longest usable token is taken. If there is none, any token will do, and if there is
still none, characters are passed over until one begins.
-/
namespace CodeAppraisal.Parsing

open CodeAppraisal.Grammar

structure Lexed where
  symbol : Symbol
  start : Position
  stop : Position
  deriving Inhabited

namespace Language

def readingPlace (src : Source) (p : Position) : Position :=
  if p.byte == 0 && src.look p == '\ufeff' then src.next p else p

private def longer (best : Option Lexed) (symbol : Symbol) (start : Position) :
    Option Position → Option Lexed
  | none => best
  | some stop =>
    match best with
    | some b => if stop.byte > b.stop.byte then some ⟨symbol, start, stop⟩ else best
    | none => some ⟨symbol, start, stop⟩

private def isAdjacent : TokenClass → Bool
  | .escape | .loneBackslash => true
  | _ => false

private def readFormatText (l : Language) (src : Source) (tokens : TokenSet) (p : Position) :
    Option Lexed := do
  let (_, symbol) ← l.classes.find? (·.1 == .formatText)
  if tokens.contains symbol then
    let p := src.skip (· == '\n') p
    return ⟨symbol, p, ← Lexeme.formatText src p⟩
  else none

def readToken (l : Language) (src : Source) (tokens : TokenSet) (p : Position) : Option Lexed :=
  let p := readingPlace src p
  let q := src.skip Lexeme.isSeparator p
  if src.atEnd q && tokens.contains 0 then some ⟨0, q, q⟩
  else
    let adjacent := l.classes.foldl (fun best (c, symbol) =>
      if isAdjacent c && tokens.contains symbol then
        longer best symbol p (Lexeme.ofClass src p c)
      else best) none
    let marked := l.marks.foldl (fun best (text, symbol) =>
      if tokens.contains symbol then longer best symbol q (src.matchText text q) else best) adjacent
    let longest := l.classes.foldl (fun best (c, symbol) =>
      if isAdjacent c || c == .formatText then best
      else if tokens.contains symbol || (symbol == l.grammar.word && tokens.meets l.keywordTokens)
      then longer best symbol q (Lexeme.ofClass src q c)
      else best) marked
    readFormatText l src tokens p <|> longest

def readLayout (l : Language) (src : Source) (state : Nat) (isLost hasAdvanced : Bool)
    (tokens : TokenSet) (layout : Option Layout) (p : Position) : Option Fragment := do
  let place := readingPlace src p
  let m ← Layout.scan src (l.expected tokens) (layout.getD .initial) place
  let symbol := l.layoutSymbol m.token
  let changed := layout != some m.layout
  let useless := m.stop.byte ≤ p.byte && !changed &&
    (isLost || !hasAdvanced || l.afterToken state symbol == some state)
  if useless then none
  else some { Fragment.leaf l symbol p m.start m.stop with
    layout := some m.layout, layoutChanged := changed }

def wordOrToken (l : Language) (src : Source) (state : Nat) (origin : Position) (t : Lexed) :
    Fragment :=
  if t.symbol == l.grammar.word then
    match l.keywords[String.ofList (src.slice t.start t.stop)]? with
    | some k =>
      let symbol := if l.hasActions state k || l.isReserved state k then k else t.symbol
      { Fragment.leaf l symbol origin t.start t.stop with keyword := true }
    | none => Fragment.leaf l t.symbol origin t.start t.stop
  else Fragment.leaf l t.symbol origin t.start t.stop

def nextToken (l : Language) (src : Source) (state : Nat) (hasAdvanced : Bool)
    (layout : Option Layout) (place : Position) : Fragment :=
  go (2 * src.left place + 4) (state == lost) place none
where
  go : Nat → Bool → Position → Option (Position × Position) → Fragment
    | 0, _, p, _ => Fragment.leaf l 0 place p p
    | fuel + 1, isLost, p, passed =>
      let tokens := l.accepted.getD (if isLost then lost else state) .empty
      match l.readLayout src state isLost hasAdvanced tokens layout p, passed with
      | some found, none => { found with origin := place }
      | some _, some (start, stop) => Fragment.unreadable l place start stop
      | none, _ =>
        match l.readToken src tokens p, passed with
        | some t, none => l.wordOrToken src state place t
        | some _, some (start, stop) => Fragment.unreadable l place start stop
        | none, _ =>
          if !isLost then go fuel true place passed
          else
            let q := src.skip Lexeme.isSeparator (readingPlace src p)
            let (start, stop) := passed.getD (q, q)
            if q.byte == stop.byte then
              if src.atEnd q then Fragment.unreadable l place start stop
              else
                let q := src.next q
                go fuel true q (some (start, q))
            else go fuel true q (some (start, q))

end Language

end CodeAppraisal.Parsing
