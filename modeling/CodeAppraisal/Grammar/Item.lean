import Std.Data.HashMap
import CodeAppraisal.Grammar.Production
import CodeAppraisal.Grammar.TokenSet

/-!
Items: how far the parser is in an alternative of a rule. Two alternatives that agree in what is
still to come, and in how what is done is shown, have the same items from there on.
-/
namespace CodeAppraisal.Grammar

structure Decoration where
  shownAs : Option Alias
  field : Option String
  deriving DecidableEq, Hashable, Repr, Inhabited

def Step.decoration (s : Step) : Decoration := ⟨s.shownAs, s.field⟩

structure ItemKey where
  rule : Nat
  done : Array Decoration
  rank : Option Int
  side : Option Side
  rest : List Step
  favour : Int
  deriving DecidableEq, Hashable, Inhabited

/-- An item of the table: with `next = 0` it is finished, else `next` leads to item `after`. -/
structure Item where
  rule : Nat
  done : Array Decoration
  rank : Int
  side : Option Side
  favour : Int
  next : Symbol
  after : Nat
  deriving Inhabited

/-- What becomes of an item set when a rule may start at its point: the item that comes in, the
tokens that may follow it, and whether those that may follow the whole rule do so too. -/
structure Opening where
  item : Nat
  follow : TokenSet
  inherits : Bool
  deriving Inhabited

structure ItemTable where
  items : Array Item
  starts : Array (Array Nat)
  first : Array TokenSet
  openings : Array (Array Opening)
  deriving Inhabited

structure Numbering where
  known : Std.HashMap ItemKey Nat := {}
  items : Array Item := #[]

namespace Numbering

def add (n : Numbering) (rule : Nat) (p : Production) (done after : Nat) : Numbering × Nat :=
  let previous := if done = 0 then none else p.steps[done - 1]?
  let key : ItemKey :=
    { rule
      done := (p.steps.extract 0 done).map Step.decoration
      rank := previous.bind (·.rank)
      side := previous.bind (·.side)
      rest := (p.steps.extract done p.steps.size).toList
      favour := p.favour }
  match n.known[key]? with
  | some i => (n, i)
  | none =>
    let item : Item :=
      { rule, done := key.done, rank := key.rank.getD 0, side := key.side, favour := key.favour
        next := (key.rest.head?.map (·.symbol)).getD 0, after }
    (⟨n.known.insert key n.items.size, n.items.push item⟩, n.items.size)

def addRow (n : Numbering) (rule : Nat) (p : Production) : Numbering × Nat :=
  (List.range (p.steps.size + 1)).reverse.foldl
    (fun (n, after) done => n.add rule p done after) (n, 0)

end Numbering

def Normal.firstSets (g : Normal) : Array TokenSet :=
  let tokens := (Array.range g.terminals.size).map TokenSet.singleton
  let initial := tokens ++ Array.replicate g.nonterminals.size TokenSet.empty
  go g.nonterminals.size initial
where
  step (first : Array TokenSet) : Array TokenSet :=
    g.productions.size.fold (fun rule _ first =>
      let here := g.productions[rule].foldl (fun s p =>
        match p.steps[0]? with
        | some step => s.union (first.getD step.symbol .empty)
        | none => s) (first.getD (g.terminals.size + rule) .empty)
      first.setIfInBounds (g.terminals.size + rule) here) first
  go : Nat → Array TokenSet → Array TokenSet
    | 0, first => first
    | fuel + 1, first =>
      let next := step first
      if next == first then first else go fuel next

structure Following where
  tokens : TokenSet
  inherits : Bool
  deriving DecidableEq, Inhabited

def Following.union (a b : Following) : Following :=
  ⟨a.tokens.union b.tokens, a.inherits || b.inherits⟩

def Normal.startsWithin (g : Normal) (first : Array TokenSet) (rule : Nat) :
    Array (Option Following) :=
  let initial := (Array.replicate g.nonterminals.size none).setIfInBounds rule
    (some ⟨.empty, true⟩)
  go g.nonterminals.size initial
where
  step (reached : Array (Option Following)) : Array (Option Following) :=
    g.productions.size.fold (fun outer _ reached =>
      match reached.getD outer none with
      | none => reached
      | some here => g.productions[outer].foldl (fun reached p =>
        match p.steps[0]? with
        | none => reached
        | some s =>
          if s.symbol < g.terminals.size then reached
          else
            let inner := s.symbol - g.terminals.size
            let follow : Following := match p.steps[1]? with
              | some next => ⟨first.getD next.symbol .empty, false⟩
              | none => here
            match reached.getD inner none with
            | none => reached.setIfInBounds inner (some follow)
            | some old => reached.setIfInBounds inner (some (old.union follow))) reached) reached
  go : Nat → Array (Option Following) → Array (Option Following)
    | 0, reached => reached
    | fuel + 1, reached =>
      let next := step reached
      if next == reached then reached else go fuel next

/-- The items of a grammar and their openings. Item 0 is the whole text before the start rule. -/
def Normal.itemTable (g : Normal) : ItemTable :=
  let whole : Production := ⟨#[⟨g.start, none, none, none, none⟩], 0⟩
  let (numbering, top) := ({} : Numbering).addRow g.nonterminals.size whole
  let (numbering, starts) := g.productions.size.fold (fun rule _ (n, starts) =>
      let (n, row) := g.productions[rule].foldl
        (fun (n, row) p => let (n, i) := Numbering.addRow n rule p; (n, row.push i))
        ((n, #[]) : Numbering × Array Nat)
      (n, starts.push row)) ((numbering, #[]) : Numbering × Array (Array Nat))
  let first := g.firstSets
  let openings := (Array.range g.productions.size).map fun rule =>
    let reached := g.startsWithin first rule
    reached.size.fold (fun inner _ openings =>
      match reached[inner] with
      | none => openings
      | some f =>
        openings ++ (starts.getD inner #[]).map fun i => ⟨i, f.tokens, f.inherits⟩) #[]
  { items := numbering.items, starts := starts.push #[top], first, openings }

end CodeAppraisal.Grammar
