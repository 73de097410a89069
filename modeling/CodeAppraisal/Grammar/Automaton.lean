import Std.Data.HashMap
import CodeAppraisal.Grammar.Item

/-!
The states of a parser for a grammar. A state is a set of items with the tokens that may follow
each; its actions say what to do with the next token. Where ranks and sides leave several actions
for a token, all of them are kept, and the parser follows each.
-/
namespace CodeAppraisal.Grammar

structure Reduction where
  rule : Nat
  children : Array Decoration
  favour : Int
  deriving DecidableEq, Hashable, Inhabited

inductive Action where
  /-- Go on to a state; `again` marks the growth of a repetition that is about to be closed. -/
  | shift (state : Nat) (again : Bool)
  | shiftExtra
  | reduce (reduction : Nat)
  | accept
  | recover
  deriving DecidableEq, Inhabited

structure State where
  core : Nat
  actions : Array (Array Action)
  gotos : Array (Symbol × Nat)
  deriving Inhabited

structure Automaton where
  states : Array State
  reductions : Array Reduction
  deriving Inhabited

abbrev Kernel := Array (Nat × TokenSet)

def Kernel.insert (k : Kernel) (i : Nat) (follow : TokenSet) : Kernel :=
  go k.size (k.push (i, follow))
where
  go : Nat → Kernel → Kernel
    | 0, k => k
    | n + 1, k =>
      let (j, f) := k[n]!
      if j < i then k
      else if j = i then
        (k.modify n fun p => (p.1, p.2.union (k[n + 1]!).2)).eraseIdxIfInBounds (n + 1)
      else go n ((k.setIfInBounds (n + 1) (j, f)).setIfInBounds n (i, follow))

namespace ItemTable

def closure (t : ItemTable) (terminals : Nat) (k : Kernel) : Array (Nat × TokenSet) := Id.run do
  let mut follow : Array TokenSet := Array.replicate t.items.size .empty
  let mut present : Array Nat := #[]
  for (i, f) in k do
    if (follow[i]!).isEmpty then present := present.push i
    follow := follow.modify i (·.union f)
    let item := t.items[i]!
    if item.next ≥ terminals then
      let afterwards := (t.items[item.after]!).next
      let outer := if afterwards = 0 then f else t.first[afterwards]!
      for o in t.openings[item.next - terminals]! do
        if (follow[o.item]!).isEmpty then present := present.push o.item
        let g := if o.inherits then o.follow.union outer else o.follow
        follow := follow.modify o.item (·.union g)
  return present.map fun i => (i, follow[i]!)

structure Contest where
  rank : Int := 0
  leftward : Bool := false
  rightward : Bool := false
  sideless : Bool := false
  deriving Inhabited

def Contest.add (c : Contest) (item : Item) : Contest :=
  match item.side with
  | some .left => { c with rank := item.rank, leftward := true }
  | some .right => { c with rank := item.rank, rightward := true }
  | none => { c with rank := item.rank, sideless := true }

/--
What remains of the actions on a token when some items finish there and others go on. A shift that
only grows the repetition that the reductions close is kept and marked. Else the higher rank wins;
at equal rank, reductions that all group to the left win over the shift, and the shift over
reductions that all group to the right.
-/
def resolve (t : ItemTable) (repeated : Nat → Bool) (whole : Nat) (k : Kernel) (token : Nat)
    (contest : Contest) (reductions : Array Action) (target : Option Nat) : Array Action :=
  match target with
  | none => reductions
  | some target =>
    let shift := Action.shift target false
    if reductions.isEmpty then #[shift]
    else
      let continuing := k.filterMap fun (i, _) =>
        let item := t.items[i]!
        if item.next ≠ 0 && item.done.size > 0 && (t.first[item.next]!).contains token then
          some item
        else none
      let finishing := k.filterMap fun (i, f) =>
        let item := t.items[i]!
        if item.next = 0 && f.contains token then some item else none
      let rules := ((continuing ++ finishing).map (·.rule)).filter (· ≠ whole)
      let rule := rules.getD 0 whole
      if repeated rule && rules.all (· == rule) then
        reductions.push (.shift target true)
      else
        let above := continuing.any fun item => item.rank > contest.rank
        let below := continuing.any fun item => item.rank < contest.rank
        if above && !below then #[shift]
        else if below && !above then reductions
        else if above && below then reductions.push shift
        else if contest.leftward && !contest.sideless && !contest.rightward then reductions
        else if contest.rightward && !contest.sideless && !contest.leftward then #[shift]
        else reductions.push shift

end ItemTable

structure Construction where
  known : Std.HashMap Kernel Nat := {}
  kernels : Array Kernel := #[]
  cores : Std.HashMap (Array Nat) Nat := {}
  reductions : Std.HashMap Reduction Nat := {}
  reductionList : Array Reduction := #[]
  states : Array State := #[]

namespace Construction

def stateOf (c : Construction) (k : Kernel) : Construction × Nat :=
  match c.known[k]? with
  | some s => (c, s)
  | none =>
    let s := c.kernels.size
    ({ c with known := c.known.insert k s, kernels := c.kernels.push k }, s)

def coreOf (c : Construction) (k : Kernel) : Construction × Nat :=
  let items := k.map (·.1)
  match c.cores[items]? with
  | some n => (c, n)
  | none =>
    let n := c.cores.size + 1
    ({ c with cores := c.cores.insert items n }, n)

def reductionOf (c : Construction) (item : Item) : Construction × Nat :=
  let r : Reduction := ⟨item.rule, item.done, item.favour⟩
  match c.reductions[r]? with
  | some n => (c, n)
  | none =>
    let n := c.reductionList.size
    ({ c with
        reductions := c.reductions.insert r n
        reductionList := c.reductionList.push r }, n)

def addState (g : Normal) (t : ItemTable) (c : Construction) (k : Kernel) :
    Construction := Id.run do
  let terminals := g.terminals.size
  let whole := g.nonterminals.size
  let repeated (rule : Nat) : Bool := (g.nonterminals[rule]?.map (·.repeated)).getD false
  let mut c := c
  let mut successors : Array Kernel :=
    Array.replicate (terminals + g.nonterminals.size) #[]
  let mut finished : Array (Item × TokenSet) := #[]
  for (i, f) in t.closure terminals k do
    let item := t.items[i]!
    if item.next = 0 then finished := finished.push (item, f)
    else successors := successors.modify item.next (·.insert item.after f)
  finished := finished.insertionSort fun a b =>
    a.1.done.size < b.1.done.size ||
      (a.1.done.size == b.1.done.size && a.1.rule < b.1.rule)
  let mut actions : Array (Array Action) := Array.replicate terminals #[]
  let mut contests : Array ItemTable.Contest := #[]
  if !finished.isEmpty then contests := Array.replicate terminals {}
  for (item, f) in finished do
    let mut action := Action.accept
    if item.rule ≠ whole then
      let (c', r) := c.reductionOf item
      c := c'
      action := .reduce r
    for token in [0:terminals] do
      if f.contains token then
        let old := actions[token]!
        let contest := contests[token]!
        if old.isEmpty || item.rank > contest.rank then
          actions := actions.setIfInBounds token #[action]
          contests := contests.setIfInBounds token (ItemTable.Contest.add {} item)
        else if item.rank == contest.rank then
          actions :=
            actions.setIfInBounds token (if old.contains action then old else old.push action)
          contests := contests.setIfInBounds token (contest.add item)
  for token in [0:terminals] do
    let next := successors[token]!
    if !next.isEmpty then
      let (c', s) := c.stateOf next
      c := c'
      let old := actions[token]!
      let contest := if finished.isEmpty then {} else contests[token]!
      actions := actions.setIfInBounds token
        (t.resolve repeated whole k token contest old (some s))
  let mut gotos : Array (Symbol × Nat) := #[]
  for symbol in [terminals:terminals + g.nonterminals.size] do
    let next := successors[symbol]!
    if !next.isEmpty then
      let (c', s) := c.stateOf next
      c := c'
      gotos := gotos.push (symbol, s)
  for token in g.extras do
    if (actions[token]!).isEmpty then actions := actions.setIfInBounds token #[.shiftExtra]
  let (c', core) := c.coreOf k
  return { c' with states := c'.states.push { core, actions, gotos } }

end Construction

def Normal.lostState (g : Normal) (excluded : Nat → Bool) : State where
  core := 0
  actions := (Array.range g.terminals.size).map fun token =>
    if g.extras.contains token then #[.shiftExtra]
    else if excluded token then #[] else #[.recover]
  gotos := #[]

def lost : Nat := 0

def initial : Nat := 1

def Normal.automaton (g : Normal) (excluded : Nat → Bool) (limit : Nat) : Automaton := Id.run do
  let t := g.itemTable
  let top := ((t.starts.getD g.nonterminals.size #[]).getD 0 0)
  let start : Kernel := #[(top, .singleton 0)]
  let mut c : Construction :=
    { kernels := #[#[]], states := #[g.lostState excluded] }
  c := (c.stateOf start).1
  for s in [1:limit] do
    if s ≥ c.kernels.size then break
    c := c.addState g t c.kernels[s]!
  return ⟨c.states, c.reductionList⟩

end CodeAppraisal.Grammar
