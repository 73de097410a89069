import CodeAppraisal.Parsing.Repair

/-!
The parser as a whole: the readings are advanced in turn, then compared, until the best complete
tree cannot be beaten.
-/
namespace CodeAppraisal.Parsing

open CodeAppraisal.Grammar

namespace Run

private def asName (l : Language) (state : Nat) (token : Fragment) : Option Fragment :=
  if token.keyword && token.symbol != l.grammar.word && !l.isReserved state token.symbol &&
      l.hasActions state l.grammar.word then
    some { token with symbol := l.grammar.word, named := true, visible := true }
  else none

private def reduceEach (l : Language) (r : Run) (v : Nat) (actions : Array Action) :
    Run × Option Nat × Bool :=
  actions.foldl (fun (r, last, reduced) action =>
    match action with
    | .reduce n =>
      let (r, made) := r.reduce l v (l.reductions.getD n default)
      (r, made <|> last, true)
    | _ => (r, last, reduced)) (r, none, false)

private def isFinal : Action → Bool
  | .shift _ again => !again
  | .reduce _ => false
  | _ => true

def take (l : Language) : Nat → Run → Nat → Fragment → Run
  | 0, r, v, _ => r.onStack (·.halt v)
  | fuel + 1, r, v, token =>
    let state := r.stack.state v
    let actions := l.actions state token.symbol
    let (r, last, reduced) := reduceEach l r v actions
    match actions.find? isFinal with
    | some (.shift next _) => r.shift v next token false
    | some .shiftExtra => r.shift v state token true
    | some .accept => r.accept v token
    | some _ => r.recover l v token
    | none =>
      match last with
      | some made => take l fuel (r.onStack (·.replace made v)) v token
      | none =>
        if reduced then r.onStack (·.halt v)
        else
          match asName l state token with
          | some name => take l fuel r v name
          | none =>
            if state == lost then r.recover l v token else r.onStack (·.pause v token)

def advance (l : Language) (src : Source) (fuel : Nat) (r : Run) (v : Nat) : Run :=
  let state := r.stack.state v
  let token := l.nextToken src state (r.stack.hasAdvanced v) (r.stack.reading v).layout
    (r.stack.place v)
  r.take l fuel v token

private def advanceFar (l : Language) (src : Source) (v : Nat) :
    Nat → Nat → Run → Nat → Run × Nat
  | 0, _, r, far => (r.onStack (·.halt v), far)
  | fuel + 1, takeFuel, r, far =>
    if r.stack.isActive v then
      let r := r.advance l src takeFuel v
      let place := (r.stack.place v).byte
      if place > far || (v > 0 && place == far) then (r, place)
      else advanceFar l src v fuel takeFuel r far
    else (r, far)

/-- Sorts the readings by promise and drops those that are beaten; resumes the best one if it is
stuck. Gives the least cost of a reading that is not in an error, if there is one. -/
def condense (l : Language) (r : Run) : Run × Option Nat :=
  let (r, least) := rank 1000 0 r none
  let r := r.onStack fun s => { s with readings := s.readings.extract 0 maxReadings }
  resume (r.stack.count) 0 false r least
where
  lower (least : Option Nat) (cost : Nat) : Option Nat :=
    match least with
    | some n => some (min n cost)
    | none => some cost
  settle (status : Standing) : Nat → Nat → Nat → Run → Run × Nat
    | 0, i, _, r => (r, i + 1)
    | fuel + 1, i, j, r =>
      if j ≥ i then (r, i + 1)
      else
        let (r, other) := r.standing j
        match other.compare status with
        | .takeLeft => (r.onStack (·.remove i), i)
        | .preferLeft | .even =>
          let ⟨stack, finished, accepted⟩ := r
          match stack.merge j i with
          | (stack, true) => (⟨stack, finished, accepted⟩, i)
          | (stack, false) => settle status fuel i (j + 1) ⟨stack, finished, accepted⟩
        | .preferRight =>
          let ⟨stack, finished, accepted⟩ := r
          match stack.merge j i with
          | (stack, true) => (⟨stack, finished, accepted⟩, i)
          | (stack, false) => settle status fuel i (j + 1) ⟨stack.swap i j, finished, accepted⟩
        | .takeRight => settle status fuel (i - 1) j (r.onStack (·.remove j))
  rank : Nat → Nat → Run → Option Nat → Run × Option Nat
    | 0, _, r, least => (r, least)
    | fuel + 1, i, r, least =>
      if i ≥ r.stack.count then (r, least)
      else if r.stack.isHalted i then rank fuel i (r.onStack (·.remove i)) least
      else
        let (r, status) := r.standing i
        let least := if status.inError then least else lower least status.cost
        let (r, next) := settle status (2 * r.stack.count + 2) i 0 r
        rank fuel next r least
  resume : Nat → Nat → Bool → Run → Option Nat → Run × Option Nat
    | 0, _, _, r, least => (r, least)
    | fuel + 1, i, going, r, least =>
      match r.stack.readings[i]? with
      | none => (r, least)
      | some x =>
        match x.phase with
        | .paused token =>
          if !going && r.accepted < maxReadings then
            let cost := r.stack.cost i
            let r := r.onStack (·.modifyReading i fun x => { x with phase := .active })
            resume fuel (i + 1) true (r.repair l i token) (some cost)
          else resume fuel i going (r.onStack (·.remove i)) least
        | _ => resume fuel (i + 1) true r least

def loop (l : Language) (src : Source) (takeFuel : Nat) : Nat → Run → Nat → Run
  | 0, r, _ => r
  | fuel + 1, r, far => Id.run do
    let mut r := r
    let mut far := far
    let mut count := 0
    for v in [0:1000] do
      count := r.stack.count
      if v ≥ count then break
      let (r', far') := advanceFar l src v takeFuel takeFuel r far
      r := r'
      far := far'
    let (r', least) := r.condense l
    r := r'
    match r.finished, least with
    | some t, some cost => if t.cost < cost then return r
    | some _, none => return r
    | none, _ => pure ()
    if count == 0 then return r
    return loop l src takeFuel fuel r far

end Run

namespace Language

def parse (l : Language) (src : Source) : Fragment :=
  let fuel := 8 * src.chars.size + 4096
  let run := Run.start.loop l src fuel fuel 0
  run.finished.getD (Fragment.error #[] false .zero)

end Language

end CodeAppraisal.Parsing
