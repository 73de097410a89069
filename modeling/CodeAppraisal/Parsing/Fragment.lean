import CodeAppraisal.Parsing.Language

/-!
Pieces of a syntax tree while it is being built, with what it cost to repair the text in them.
-/
namespace CodeAppraisal.Parsing

open CodeAppraisal.Grammar

def errorSymbol : Symbol := 65535

def skippedSymbol : Symbol := 65534

namespace Cost

def error : Nat := 500

def missing : Nat := 110

def skippedNode : Nat := 100

def skippedByte : Nat := 1

def skippedLine : Nat := 30

end Cost

structure Fragment where
  symbol : Symbol
  /-- Where the text before it ends; white space may follow. -/
  origin : Position
  start : Position
  stop : Position
  children : Array Fragment
  decorations : Array Decoration
  visible : Bool
  named : Bool
  extra : Bool
  missing : Bool
  keyword : Bool
  cost : Nat
  favour : Int
  descendants : Nat
  visibleChildren : Nat
  layout : Option Layout
  layoutChanged : Bool
  deriving Inhabited

namespace Fragment

def isError (f : Fragment) : Bool := f.symbol == errorSymbol

def isLeaf (f : Fragment) : Bool := f.children.isEmpty

def width (f : Fragment) : Nat := f.stop.byte - f.origin.byte

def height (f : Fragment) : Nat := f.stop.row - f.origin.row

def weight (f : Fragment) : Nat :=
  f.descendants + (if f.visible then 1 else 0) + (if f.symbol == skippedSymbol then 1 else 0)

def leaf (l : Language) (symbol : Symbol) (origin start stop : Position) : Fragment :=
  let t := l.grammar.terminals.getD symbol default
  { symbol, origin, start, stop, children := #[], decorations := #[], visible := t.visible
    named := t.named, extra := symbol == 0, missing := false, keyword := false, cost := 0
    favour := 0, descendants := 0, visibleChildren := 0, layout := none, layoutChanged := false }

def unreadable (l : Language) (origin start stop : Position) : Fragment :=
  { leaf l errorSymbol origin start stop with visible := true, named := true }

def absent (l : Language) (symbol : Symbol) (p : Position) : Fragment :=
  { leaf l symbol p p p with missing := true, extra := false, cost := Cost.missing + Cost.error }

private def skippingCost (child : Fragment) : Nat :=
  if child.extra || (child.isError && child.isLeaf) then 0
  else if child.visible then Cost.skippedNode
  else if child.isLeaf then 0
  else Cost.skippedNode * child.visibleChildren

def node (symbol : Symbol) (visible named : Bool) (decorations : Array Decoration)
    (children : Array Fragment) (place : Position) : Fragment := Id.run do
  let isError := symbol == errorSymbol || symbol == skippedSymbol
  let start := (children[0]?.map (·.start)).getD place
  let stop := (children.back?.map (·.stop)).getD place
  let mut cost := 0
  let mut favour : Int := 0
  let mut descendants := 0
  let mut visibleChildren := 0
  let mut layout : Option Layout := none
  let mut layoutChanged := false
  let mut place := 0
  for child in children do
    if child.symbol != skippedSymbol then cost := cost + child.cost
    if isError then cost := cost + skippingCost child
    favour := favour + child.favour
    descendants := descendants + child.descendants
    let renamed := !child.extra && child.symbol != 0 &&
      (decorations[place]?.bind (·.shownAs)).isSome
    if renamed || child.visible then
      descendants := descendants + 1
      visibleChildren := visibleChildren + 1
    else if !child.isLeaf then
      visibleChildren := visibleChildren + child.visibleChildren
    if child.layout.isSome then layout := child.layout
    if child.layoutChanged then layoutChanged := true
    if !child.extra then place := place + 1
  if isError then
    cost := cost + Cost.error + Cost.skippedByte * (stop.byte - start.byte) +
      Cost.skippedLine * (stop.row - start.row)
  return { symbol, origin := (children[0]?.map (·.origin)).getD start, start, stop, children
           decorations, visible, named, extra := false, missing := false, keyword := false
           cost, favour, descendants, visibleChildren, layout, layoutChanged }

def ofRule (l : Language) (r : Reduction) (children : Array Fragment) (place : Position) :
    Fragment :=
  let n := l.grammar.nonterminals.getD r.rule default
  let made := node (l.grammar.terminals.size + r.rule) n.visible n.visible r.children children place
  { made with favour := made.favour + r.favour }

def error (children : Array Fragment) (extra : Bool) (place : Position) : Fragment :=
  { node errorSymbol true true #[] children place with extra }

def skipped (children : Array Fragment) (place : Position) : Fragment :=
  node skippedSymbol false false #[] children place

def compareShapes : Nat → List (Fragment × Fragment) → Ordering
  | 0, _ => .eq
  | _, [] => .eq
  | fuel + 1, (a, b) :: rest =>
    match (compare a.symbol b.symbol).then (compare a.children.size b.children.size) with
    | .eq => compareShapes fuel ((a.children.toList.zip b.children.toList) ++ rest)
    | o => o

/--
Whether `b` is to be kept instead of `a`, when both cover the same text: the cheaper one, then the
more favoured one, then the later one if they hold errors, then the one of the smaller shape.
-/
def prefersOther (a b : Fragment) : Bool :=
  if b.cost < a.cost then true
  else if a.cost < b.cost then false
  else if b.favour > a.favour then true
  else if a.favour > b.favour then false
  else if a.cost > 0 then true
  else compareShapes (a.descendants + b.descendants + 100000) [(a, b)] == .gt

def equivalent (a b : Fragment) : Bool :=
  a.symbol == b.symbol &&
    ((a.cost > 0 && b.cost > 0) ||
      (a.start.byte - a.origin.byte == b.start.byte - b.origin.byte &&
        a.stop.byte - a.start.byte == b.stop.byte - b.start.byte &&
        a.children.size == b.children.size && a.extra == b.extra &&
        leafLayout a == leafLayout b))
where
  leafLayout (f : Fragment) : Option Layout := if f.isLeaf then f.layout else none

end Fragment

end CodeAppraisal.Parsing
