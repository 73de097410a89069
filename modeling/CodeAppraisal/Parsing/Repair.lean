import CodeAppraisal.Parsing.Parser

/-!
What the parser does when no reading can take the next token. It may make up one missing token; else
it is lost, and at each further token it either goes back to a state that can take the token, with
all since then wrapped in an error, or adds the token to the error.
-/
namespace CodeAppraisal.Parsing

open CodeAppraisal.Grammar

namespace Run

def landmarkDepth : Nat := 16

private def options (l : Language) (state : Nat) (token : Symbol) : Array Reduction × Bool :=
  let tokens := if token == 0 then (List.range l.grammar.terminals.size).drop 1 else [token]
  tokens.foldl (fun found t => (l.actions state t).foldl (fun (reductions, shifts) action =>
    match action with
    | .shift _ again => (reductions, shifts || !again)
    | .recover => (reductions, true)
    | .reduce n =>
      let r := l.reductions.getD n default
      let known := reductions.any fun q => q.rule == r.rule && q.children.size == r.children.size
      (if known then reductions else reductions.push r, shifts)
    | _ => (reductions, shifts)) found) (#[], false)

/--
Does all reductions that a reading could do on a token, or with `token = 0` on any token, as new
readings. Tells whether some reading could then shift it; readings that could not are dropped.
-/
def reduceAll (l : Language) (r : Run) (first : Nat) (token : Symbol) : Run × Bool :=
  go 1000 0 first r false
where
  base : Nat := r.stack.count
  mergeInto (r : Run) (v : Nat) : Run × Bool := Id.run do
    let mut r := r
    for j in [base:v] do
      let ⟨stack, finished, accepted⟩ := r
      let (stack, merged) := stack.merge j v
      r := ⟨stack, finished, accepted⟩
      if merged then return (r, true)
    return (r, false)
  go : Nat → Nat → Nat → Run → Bool → Run × Bool
    | 0, _, _, r, can => (r, can)
    | fuel + 1, i, v, r, can =>
      let count := r.stack.count
      if v ≥ count then (r, can)
      else
        match mergeInto r v with
        | (r, true) => go fuel (i + 1) v r can
        | (r, false) =>
          let (reductions, shifts) := options l (r.stack.state v) token
          let (r, last) := reductions.foldl
            (fun (r, _) reduction => r.reduce l v reduction) (r, none)
          let next := if v == first then count else v + 1
          if shifts then go fuel (i + 1) next r true
          else
            match last with
            | some made =>
              if i < maxReadings then go fuel (i + 1) v (r.onStack (·.replace made v)) can
              else if token != 0 then go fuel (i + 1) next (r.onStack (·.remove v)) can
              else go fuel (i + 1) next r can
            | none =>
              if token != 0 then go fuel (i + 1) next (r.onStack (·.remove v)) can
              else go fuel (i + 1) next r can

/-- Goes back to a state some trees down a reading; they become an error, together with an error
just below them. -/
def recoverTo (r : Run) (v depth goal : Nat) : Run × Bool := Id.run do
  let ⟨stack, finished, accepted⟩ := r
  let (stack', slices) := stack.pop v depth
  let mut stack := stack'
  let mut previous : Option Nat := none
  for slice in slices do
    if previous != some slice.reading then
      if stack.state slice.reading != goal then
        stack := stack.halt slice.reading
      else
        let place := stack.place slice.reading
        let (stack', error) := stack.popError slice.reading
        stack := stack'
        let before := (error.map (·.children)).getD #[]
        let (trees, extras) := splitExtras (before ++ slice.trees)
        if !trees.isEmpty then
          stack := stack.push slice.reading (some (Fragment.error trees true place)) goal
        for t in extras do
          stack := stack.push slice.reading (some t) goal
        previous := some slice.reading
  return (⟨stack, finished, accepted⟩, previous.isSome)

def recoverBack (l : Language) (r : Run) (v : Nat) (token : Fragment) (weight cost : Nat) :
    Run × Bool := Id.run do
  let mut r := r
  let count := r.stack.count
  let place := r.stack.place v
  if token.isError then return (r, false)
  for mark in (r.stack.reading v).landmarks do
    if mark.state != lost && mark.place.byte != place.byte then
      let depth := if weight > 0 then mark.depth + 1 else mark.depth
      let taken := (List.range count).any fun j =>
        r.stack.state j == mark.state && (r.stack.place j).byte == place.byte
      if !taken then
        let newCost := cost + mark.depth * Cost.skippedNode +
          (place.byte - mark.place.byte) * Cost.skippedByte +
          (place.row - mark.place.row) * Cost.skippedLine
        let (r', better) := r.betterExists v false newCost
        r := r'
        if better then break
        if l.hasActions mark.state token.symbol then
          let (r', done) := r.recoverTo v depth mark.state
          r := r'
          if done then return (r, true)
  return (r, false)

private def dropInactive (s : Stack) (first : Nat) : Stack :=
  { s with readings := s.readings.extract 0 first ++
      (s.readings.extract first s.readings.size).filter fun x =>
        match x.phase with
        | .active => true
        | _ => false }

private def skipToken (l : Language) (r : Run) (v : Nat) (token : Fragment) (weight : Nat) : Run :=
  let extra := match (l.actions initial token.symbol).back? with
    | some .shiftExtra => true
    | _ => token.extra
  let token := { token with extra }
  r.onStack fun s =>
    let place := s.place v
    let error := Fragment.skipped #[token] place
    let (s, error) :=
      if weight > 0 then
        let (s, slices) := s.pop v 1
        let first := slices.getD 0 default
        let s := { s with readings := s.readings.extract 0 (first.reading + 1) }
        let s := s.replace first.reading v
        (s, Fragment.skipped (first.trees.push error) place)
      else (s, error)
    let s := s.push v (some error) lost
    if token.layout.isSome then s.modifyReading v fun x => { x with layout := token.layout } else s

def recover (l : Language) (r : Run) (v : Nat) (token : Fragment) : Run :=
  let count := r.stack.count
  let (stack, weight) := r.stack.weightSinceError v
  let r := { r with stack }
  let cost := r.stack.cost v
  let (r, back) := r.recoverBack l v token weight cost
  let r := r.onStack (dropInactive · count)
  if token.symbol == 0 then
    let r := r.onStack fun s => s.push v (some (Fragment.error #[] false (s.place v))) initial
    r.accept v token
  else if back && r.stack.count > maxReadings then r.onStack (·.halt v)
  else if back && token.layoutChanged then r.onStack (·.halt v)
  else
    let newCost := cost + Cost.skippedNode + token.width * Cost.skippedByte +
      token.height * Cost.skippedLine
    match r.betterExists v false newCost with
    | (r, true) => r.onStack (·.halt v)
    | (r, false) => skipToken l r v token weight

def insertMissing (l : Language) (r : Run) (v : Nat) (token : Fragment) : Run × Bool := Id.run do
  let mut r := r
  let state := r.stack.state v
  for absent in [1:l.grammar.terminals.size] do
    match l.afterToken state absent with
    | none => pure ()
    | some next =>
      if next != lost && next != state && l.reducesFirst next token.symbol then
        let fresh := r.stack.count
        r := r.onStack fun s =>
          (s.copy v).push fresh (some (Fragment.absent l absent (s.place v))) next
        let (r', works) := r.reduceAll l fresh token.symbol
        r := r'
        if works then return (r, true)
  return (r, false)

def repair (l : Language) (r : Run) (v : Nat) (token : Fragment) : Run := Id.run do
  let before := r.stack.count
  let mut r := (r.reduceAll l v 0).1
  let count := r.stack.count
  let mut inserted := false
  for w in v :: (List.range count).drop before do
    if !inserted then
      let (r', works) := r.insertMissing l w token
      r := r'
      inserted := works
    r := r.onStack (·.push w none lost)
  for _ in [before:count] do
    r := r.onStack fun s => (s.merge v before).1
  r := r.onStack (·.noteLandmarks v landmarkDepth)
  return r.recover l v token

end Run

end CodeAppraisal.Parsing
