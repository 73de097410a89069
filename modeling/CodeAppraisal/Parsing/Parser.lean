import CodeAppraisal.Parsing.Lexer
import CodeAppraisal.Parsing.Stack

/-!
The steps of a parser without errors: a reading shifts tokens and completes rules, and splits where
the grammar leaves a choice.
-/
namespace CodeAppraisal.Parsing

open CodeAppraisal.Grammar

structure Standing where
  cost : Nat
  weight : Nat
  favour : Int
  inError : Bool

inductive Verdict where
  | takeLeft
  | preferLeft
  | even
  | preferRight
  | takeRight
  deriving DecidableEq

/-- A reading that is this much costlier than another one is given up; the more the other one has
read since its error, the sooner. -/
def maxCostDifference : Nat := 18 * 100

def maxReadings : Nat := 6

def readingsOverflow : Nat := 4

def Standing.compare (a b : Standing) : Verdict :=
  if !a.inError && b.inError then
    if a.cost < b.cost then .takeLeft else .preferLeft
  else if a.inError && !b.inError then
    if b.cost < a.cost then .takeRight else .preferRight
  else if a.cost < b.cost then
    if (b.cost - a.cost) * (1 + a.weight) > maxCostDifference then .takeLeft else .preferLeft
  else if b.cost < a.cost then
    if (a.cost - b.cost) * (1 + b.weight) > maxCostDifference then .takeRight else .preferRight
  else if a.favour > b.favour then .preferLeft
  else if b.favour > a.favour then .preferRight
  else .even

structure Run where
  stack : Stack
  finished : Option Fragment
  accepted : Nat

namespace Run

def start : Run := ⟨Stack.start initial, none, 0⟩

def onStack (r : Run) (f : Stack → Stack) : Run :=
  let ⟨stack, finished, accepted⟩ := r
  ⟨f stack, finished, accepted⟩

def standing (r : Run) (v : Nat) : Run × Standing :=
  let ⟨stack, finished, accepted⟩ := r
  let (stack, weight) := stack.weightSinceError v
  let paused := stack.isPaused v
  let cost := stack.cost v + (if paused then Cost.skippedNode else 0)
  let standing : Standing :=
    { cost, weight, favour := stack.favour v, inError := paused || stack.state v == lost }
  (⟨stack, finished, accepted⟩, standing)

def betterExists (r : Run) (v : Nat) (inError : Bool) (cost : Nat) : Run × Bool := Id.run do
  match r.finished with
  | some t => if t.cost ≤ cost then return (r, true)
  | none => pure ()
  let place := (r.stack.place v).byte
  let (stack, weight) := r.stack.weightSinceError v
  let mut r := { r with stack }
  let here : Standing := { cost, weight, favour := r.stack.favour v, inError }
  for i in [0:r.stack.count] do
    if i != v && r.stack.isActive i && (r.stack.place i).byte ≥ place then
      let (r', there) := r.standing i
      r := r'
      match here.compare there with
      | .takeRight => return (r, true)
      | .preferRight => if r.stack.canMerge i v then return (r, true)
      | _ => pure ()
  return (r, false)

def splitExtras (trees : Array Fragment) : Array Fragment × Array Fragment :=
  let n := (trees.toList.reverse.takeWhile (·.extra)).length
  (trees.extract 0 (trees.size - n), trees.extract (trees.size - n) trees.size)

/--
Completes a rule on a reading. Each path the children can be taken along gives a new reading; of
those that end in one place only the best children are kept. Gives the first new reading, if any
was not joined to an older one.
-/
def reduce (l : Language) (r : Run) (v : Nat) (reduction : Reduction) :
    Run × Option Nat := Id.run do
  let before := r.stack.count
  let halted := (r.stack.readings.filter fun x =>
    match x.phase with
    | .halted => true
    | _ => false).size
  let symbol := l.grammar.terminals.size + reduction.rule
  let ⟨stack, finished, accepted⟩ := r
  let (stack', slices) := stack.pop v reduction.children.size
  let mut stack := stack'
  let mut removed := 0
  let mut i := 0
  for _ in [0:slices.size] do
    if i ≥ slices.size then break
    let slice := slices[i]!
    let target := slice.reading - removed
    i := i + 1
    if target > maxReadings + readingsOverflow + halted then
      stack := stack.remove target
      removed := removed + 1
      for _ in [i:slices.size] do
        if (slices[i]?.map (·.reading)) == some slice.reading then i := i + 1
    else
      let place := stack.place target
      let (children, extras) := splitExtras slice.trees
      let mut parent := Fragment.ofRule l { reduction with favour := 0 } children place
      let mut extras := extras
      for _ in [i:slices.size] do
        match slices[i]? with
        | some other =>
          if other.reading == slice.reading then
            i := i + 1
            let (children', extras') := splitExtras other.trees
            let parent' := Fragment.ofRule l { reduction with favour := 0 } children' place
            if parent.prefersOther parent' then
              parent := parent'
              extras := extras'
        | none => pure ()
      parent := { parent with favour := parent.favour + reduction.favour }
      let next := l.afterRule (stack.state target) symbol
      stack := stack.push target (some parent) next
      for t in extras do
        stack := stack.push target (some t) next
      for j in [0:target] do
        if j != v then
          let (stack', merged) := stack.merge j target
          stack := stack'
          if merged then
            removed := removed + 1
            break
  return (⟨stack, finished, accepted⟩, if stack.count > before then some before else none)

def shift (r : Run) (v : Nat) (state : Nat) (token : Fragment) (extra : Bool) : Run :=
  let token := if token.isLeaf then { token with extra } else token
  r.onStack fun s =>
    let s := s.push v (some token) state
    if token.layout.isSome then s.modifyReading v fun x => { x with layout := token.layout } else s

def accept (r : Run) (v : Nat) (token : Fragment) : Run := Id.run do
  let ⟨stack, finished, accepted⟩ := r
  let stack := stack.push v (some token) initial
  let (stack, slices) := stack.popAll v
  let mut finished := finished
  let mut accepted := accepted
  for slice in slices do
    let trees := slice.trees
    match (List.range trees.size).reverse.find? fun j => !(trees.getD j default).extra with
    | none => pure ()
    | some j =>
      let top := trees.getD j default
      let children := trees.extract 0 j ++ top.children ++ trees.extract (j + 1) trees.size
      let root := Fragment.node top.symbol top.visible top.named top.decorations children .zero
      accepted := accepted + 1
      match finished with
      | some old => if old.prefersOther root then finished := some root
      | none => finished := some root
  let stack := match slices[0]? with
    | some slice => stack.remove slice.reading
    | none => stack
  return ⟨stack.halt v, finished, accepted⟩

end Run

end CodeAppraisal.Parsing
