import CodeAppraisal.Parsing.Fragment

/-!
The stacks of a parser that follows several readings of the text at once. The readings share what
they have in common: nodes are kept in one table, and a node may be reached along several links.
-/
namespace CodeAppraisal.Parsing

open CodeAppraisal.Grammar (lost)

structure Link where
  below : Nat
  tree : Option Fragment
  deriving Inhabited

structure StackNode where
  state : Nat
  place : Position
  links : Array Link
  cost : Nat
  weight : Nat
  favour : Int
  deriving Inhabited

inductive Phase where
  | active
  | paused (token : Fragment)
  | halted
  deriving Inhabited

structure Landmark where
  place : Position
  depth : Nat
  state : Nat
  deriving Inhabited

structure Reading where
  node : Nat
  phase : Phase
  weightAtError : Nat
  layout : Option Layout
  landmarks : Array Landmark
  deriving Inhabited

structure Stack where
  nodes : Array StackNode
  readings : Array Reading
  deriving Inhabited

namespace Stack

def maxLinks : Nat := 8

def maxPaths : Nat := 64

def start (state : Nat) : Stack where
  nodes := #[{ state, place := .zero, links := #[], cost := 0, weight := 0, favour := 0 }]
  readings :=
    #[{ node := 0, phase := .active, weightAtError := 0, layout := none, landmarks := #[] }]

def reading (s : Stack) (v : Nat) : Reading := s.readings.getD v default

def node (s : Stack) (n : Nat) : StackNode := s.nodes.getD n default

def top (s : Stack) (v : Nat) : StackNode := s.node (s.reading v).node

def state (s : Stack) (v : Nat) : Nat := (s.top v).state

def place (s : Stack) (v : Nat) : Position := (s.top v).place

def favour (s : Stack) (v : Nat) : Int := (s.top v).favour

def isActive (s : Stack) (v : Nat) : Bool :=
  match (s.reading v).phase with
  | .active => true
  | _ => false

def isPaused (s : Stack) (v : Nat) : Bool :=
  match (s.reading v).phase with
  | .paused _ => true
  | _ => false

def isHalted (s : Stack) (v : Nat) : Bool :=
  match (s.reading v).phase with
  | .halted => true
  | _ => false

def count (s : Stack) : Nat := s.readings.size

def modifyReading (s : Stack) (v : Nat) (f : Reading → Reading) : Stack :=
  { s with readings := s.readings.modify v f }

def remove (s : Stack) (v : Nat) : Stack :=
  { s with readings := s.readings.eraseIdxIfInBounds v }

def halt (s : Stack) (v : Nat) : Stack := s.modifyReading v fun r => { r with phase := .halted }

def pause (s : Stack) (v : Nat) (token : Fragment) : Stack :=
  s.modifyReading v fun r =>
    { r with phase := .paused token, weightAtError := (s.node r.node).weight }

def swap (s : Stack) (v w : Nat) : Stack :=
  { s with readings := s.readings.swapIfInBounds v w }

def replace (s : Stack) (v w : Nat) : Stack :=
  if v == w then s
  else
    let source := s.reading v
    let target := s.reading w
    let source := if source.landmarks.isEmpty then
        { source with landmarks := target.landmarks } else source
    { s with readings := (s.readings.setIfInBounds w source).eraseIdxIfInBounds v }

def copy (s : Stack) (v : Nat) : Stack :=
  { s with readings := s.readings.push { s.reading v with landmarks := #[] } }

def cost (s : Stack) (v : Nat) : Nat :=
  let top := s.top v
  -- to be lost costs something before anything is skipped
  let lostHere := top.state == lost &&
    match top.links[0]? with
    | some link => link.tree.isNone
    | none => false
  top.cost + (if s.isPaused v || lostHere then Cost.error else 0)

def weightSinceError (s : Stack) (v : Nat) : Stack × Nat :=
  let weight := (s.top v).weight
  let base := (s.reading v).weightAtError
  -- an error that dropped nodes starts from fewer
  if weight < base then (s.modifyReading v fun r => { r with weightAtError := weight }, 0)
  else (s, weight - base)

def nodeAbove (s : Stack) (below : Nat) (tree : Option Fragment) (state : Nat) : StackNode :=
  let b := s.node below
  match tree with
  | none =>
    { state, place := b.place, links := #[⟨below, none⟩], cost := b.cost, weight := b.weight
      favour := b.favour }
  | some t =>
    { state, place := t.stop, links := #[⟨below, some t⟩], cost := b.cost + t.cost
      weight := b.weight + t.weight, favour := b.favour + t.favour }

def push (s : Stack) (v : Nat) (tree : Option Fragment) (state : Nat) : Stack :=
  let r := s.reading v
  let n := s.nodeAbove r.node tree state
  let fresh := s.nodes.size
  let s := { s with nodes := s.nodes.push n }
  s.modifyReading v fun r =>
    { r with node := fresh, weightAtError := if tree.isNone then n.weight else r.weightAtError }

private def setNode (s : Stack) (n : Nat) (node : StackNode) : Stack :=
  { s with nodes := s.nodes.setIfInBounds n node }

private def equivalentTrees : Option Fragment → Option Fragment → Bool
  | some a, some b => a.equivalent b
  | none, none => true
  | _, _ => false

/--
Gives a node a further link. A link with an equivalent tree to the same node is one link, that of
the more favoured tree; if it leads to a node in the same state at the same place and cost, the
nodes below are joined instead.
-/
def addLink (s : Stack) : Nat → Nat → Link → Stack
  | 0, _, _ => s
  | fuel + 1, n, link =>
    if link.below == n then s
    else
      let self := s.node n
      let below := s.node link.below
      let favour := below.favour + (link.tree.map (·.favour)).getD 0
      let same := self.links.findIdx? fun old =>
        equivalentTrees old.tree link.tree &&
          (old.below == link.below ||
            ((s.node old.below).state == below.state &&
              (s.node old.below).place.byte == below.place.byte &&
              (s.node old.below).cost == below.cost))
      match same with
      | some i =>
        let old := self.links.getD i default
        if old.below == link.below then
          if (link.tree.map (·.favour)).getD 0 > (old.tree.map (·.favour)).getD 0 then
            s.setNode n { self with links := self.links.setIfInBounds i link, favour }
          else s
        else
          let s := below.links.foldl (fun s l => addLink s fuel old.below l) s
          let self := s.node n
          s.setNode n { self with favour := max self.favour favour }
      | none =>
        if self.links.size == maxLinks then s
        else
          let weight := below.weight + (link.tree.map (·.weight)).getD 0
          s.setNode n { self with
            links := self.links.push link
            weight := max self.weight weight
            favour := max self.favour favour }

def canMerge (s : Stack) (v w : Nat) : Bool :=
  let a := s.top v
  let b := s.top w
  s.isActive v && s.isActive w && a.state == b.state && a.place.byte == b.place.byte &&
    a.cost == b.cost && (s.reading v).layout == (s.reading w).layout

def merge (s : Stack) (v w : Nat) : Stack × Bool :=
  if s.canMerge v w then
    let target := (s.reading v).node
    let s := (s.top w).links.foldl (fun s l => s.addLink s.nodes.size target l) s
    let s := if s.state v == lost then
        s.modifyReading v fun r => { r with weightAtError := (s.node target).weight }
      else s
    (s.remove w, true)
  else (s, false)

structure Path where
  node : Nat
  trees : List Fragment
  count : Nat
  deriving Inhabited

structure Visit where
  take : Bool
  stop : Bool

structure Slice where
  trees : Array Fragment
  reading : Nat
  deriving Inhabited

private def Path.follow (p : Path) (link : Link) : Path :=
  match link.tree with
  | some t => ⟨link.below, t :: p.trees, if t.extra then p.count else p.count + 1⟩
  | none => ⟨link.below, p.trees, p.count + 1⟩

private def addSlice (v : Nat) (p : Path) (s : Stack) (slices : Array Slice) :
    Stack × Array Slice :=
  -- paths that end in one node share a reading
  let known := (List.range slices.size).reverse.find? fun i =>
    (s.reading (slices.getD i default).reading).node == p.node
  match known with
  | some i =>
    let slice : Slice := ⟨p.trees.toArray, (slices.getD i default).reading⟩
    (s, (slices.extract 0 (i + 1)).push slice ++ slices.extract (i + 1) slices.size)
  | none =>
    let r := s.reading v
    let made : Reading :=
      { node := p.node, phase := .active, weightAtError := r.weightAtError, layout := r.layout
        landmarks := #[] }
    ({ s with readings := s.readings.push made },
      slices.push ⟨p.trees.toArray, s.readings.size⟩)

def walk (visit : σ → StackNode → Path → σ × Visit) (s : Stack) (v : Nat) (memory : σ) :
    Stack × Array Slice × σ :=
  go s.nodes.size #[⟨(s.reading v).node, [], 0⟩] s #[] memory
where
  go : Nat → Array Path → Stack → Array Slice → σ → Stack × Array Slice × σ
    | 0, _, s, slices, memory => (s, slices, memory)
    | fuel + 1, paths, s, slices, memory =>
      if paths.isEmpty then (s, slices, memory)
      else Id.run do
        let mut s := s
        let mut slices := slices
        let mut memory := memory
        let mut kept : Array Path := #[]
        let mut added : Array Path := #[]
        for i in [0:paths.size] do
          let p := paths[i]!
          let n := s.node p.node
          let (memory', visited) := visit memory n p
          memory := memory'
          if visited.take then
            let (s', slices') := addSlice v p s slices
            s := s'
            slices := slices'
          if !(visited.stop || n.links.isEmpty) then
            for j in [1:n.links.size] do
              if kept.size + (paths.size - i) + added.size < maxPaths then
                added := added.push (p.follow n.links[j]!)
            kept := kept.push (p.follow n.links[0]!)
        return go fuel (kept ++ added) s slices memory

def pop (s : Stack) (v : Nat) (n : Nat) : Stack × Array Slice :=
  let (s, slices, ()) := s.walk (fun () _ p => ((), ⟨p.count == n, p.count == n⟩)) v ()
  (s, slices)

def popAll (s : Stack) (v : Nat) : Stack × Array Slice :=
  let (s, slices, ()) := s.walk (fun () n _ => ((), ⟨n.links.isEmpty, false⟩)) v ()
  (s, slices)

def popError (s : Stack) (v : Nat) : Stack × Option Fragment :=
  let found := (s.top v).links.findSome? fun link =>
    match link.tree with
    | some t => if t.isError then some (link.below, t) else none
    | none => none
  match found with
  | some (below, t) =>
    (s.modifyReading v fun r => { r with node := below, phase := .active }, some t)
  | none => (s, none)

def noteLandmarks (s : Stack) (v : Nat) (depth : Nat) : Stack :=
  let note (seen : Array Landmark) (n : StackNode) (p : Path) : Array Landmark × Visit :=
    if p.count > depth then (seen, ⟨false, true⟩)
    else if known seen n.state p.count then (seen, ⟨false, false⟩)
    else (seen.push ⟨n.place, p.count, n.state⟩, ⟨false, false⟩)
  let (s, _, seen) := s.walk note v #[]
  s.modifyReading v fun r => { r with landmarks := seen }
where
  known (seen : Array Landmark) (state depth : Nat) : Bool :=
    (seen.toList.reverse.takeWhile (·.depth ≥ depth)).any fun l =>
      l.depth == depth && l.state == state

def hasAdvanced (s : Stack) (v : Nat) : Bool :=
  let r := s.reading v
  if (s.node r.node).cost == 0 then true else go r.weightAtError s.nodes.size r.node
where
  go (base : Nat) : Nat → Nat → Bool
    | 0, _ => false
    | fuel + 1, n =>
      let node := s.node n
      match node.links[0]? with
      | none => false
      | some link =>
        match link.tree with
        | none => false
        | some t =>
          if t.width > 0 then true
          else if node.weight > base && t.cost == 0 then go base fuel link.below
          else false

end Stack

end CodeAppraisal.Parsing
