import CodeAppraisal.Grammar.Automaton

/-!
Merging of states that have the same items and do not contradict each other. A merged state takes a
token if one of its parts does. Tokens that the layout depends on are never added to a state, nor
tokens that would change how the text of another token of the state is read.
-/
namespace CodeAppraisal.Grammar

structure MergeRules where
  fixed : TokenSet
  clashes : Array TokenSet

structure Grouping where
  groups : Array (Array Nat)
  groupOf : Array Nat

def State.tokens (s : State) : TokenSet :=
  s.actions.size.fold (fun t _ set => if s.actions[t].isEmpty then set else set.insert t) .empty

def Action.agrees (groupOf : Array Nat) : Action → Action → Bool
  | .shift s again, .shift s' again' => groupOf.getD s 0 == groupOf.getD s' 0 && again == again'
  | a, b => a == b

def MergeRules.forbids (m : MergeRules) (extra present : TokenSet) : Bool :=
  extra.meets m.fixed ||
    (List.range m.clashes.size).any fun t =>
      extra.contains t && (m.clashes.getD t .empty).meets present

def MergeRules.conflict (m : MergeRules) (groupOf : Array Nat) (a b : State) : Bool :=
  let ta := a.tokens
  let tb := b.tokens
  m.forbids (ta.without tb) tb || m.forbids (tb.without ta) ta ||
    (List.range a.actions.size).any fun t =>
      let x := a.actions.getD t #[]
      let y := b.actions.getD t #[]
      !x.isEmpty && !y.isEmpty &&
        !(x.size == y.size && (x.zip y).all fun p => Action.agrees groupOf p.1 p.2)

private def lastShift (actions : Array Action) : Option Nat :=
  match actions.back? with
  | some (.shift s _) => some s
  | _ => none

def successorsDiffer (groupOf : Array Nat) (a b : State) : Bool :=
  let differ (s s' : Nat) : Bool := groupOf.getD s 0 != groupOf.getD s' 0
  ((List.range a.actions.size).any fun t =>
    match lastShift (a.actions.getD t #[]), lastShift (b.actions.getD t #[]) with
    | some s, some s' => differ s s'
    | _, _ => false) ||
  a.gotos.any fun (symbol, s) =>
    match b.gotos.find? (·.1 == symbol) with
    | some (_, s') => differ s s'
    | none => false

namespace Grouping

def misfits (apart : State → State → Bool) (states : Array State) (group : Array Nat) :
    Array Nat := Id.run do
  let mut out : Array Bool := Array.replicate group.size false
  for i in [0:group.size] do
    if !out[i]! then
      for j in [i + 1:group.size] do
        if !out[j]! && apart (states[group[i]!]!) (states[group[j]!]!) then
          out := out.setIfInBounds j true
  return (group.zip out).filterMap fun (s, o) => if o then some s else none

def split (apart : Array Nat → State → State → Bool) (states : Array State) (limit : Nat)
    (g : Grouping) : Grouping × Bool := Id.run do
  let mut g := g
  let mut changed := false
  for i in [0:limit] do
    if i ≥ g.groups.size then break
    let group := g.groups[i]!
    let out := misfits (apart g.groupOf) states group
    if !out.isEmpty then
      changed := true
      let fresh := g.groups.size
      g := { groups := (g.groups.setIfInBounds i (group.filter (!out.contains ·))).push out
             groupOf := out.foldl (fun a s => a.setIfInBounds s fresh) g.groupOf }
  return (g, changed)

def refine (states : Array State) (limit : Nat) : Nat → Grouping → Grouping
  | 0, g => g
  | fuel + 1, g =>
    match g.split successorsDiffer states limit with
    | (g, true) => refine states limit fuel g
    | (g, false) => g

end Grouping

def Action.renumber (f : Nat → Nat) : Action → Action
  | .shift s again => .shift (f s) again
  | a => a

def State.renumber (f : Nat → Nat) (s : State) : State :=
  { s with
    actions := s.actions.map (·.map (Action.renumber f))
    gotos := s.gotos.map fun p => (p.1, f p.2) }

def State.join (a b : State) : State :=
  { a with
    actions := (a.actions.zip b.actions).map fun (x, y) => if x.isEmpty then y else x
    gotos := a.gotos ++ b.gotos.filter fun p => !a.gotos.any (·.1 == p.1) }

def Automaton.merged (a : Automaton) (m : MergeRules) : Automaton :=
  let states := a.states
  let cores := states.foldl (fun n s => max n (s.core + 1)) 0
  let groups := states.size.fold (fun i _ groups => groups.modify states[i].core (·.push i))
    (Array.replicate cores #[])
  let g : Grouping := ⟨groups, states.map (·.core)⟩
  let g := (g.split m.conflict states (states.size + cores)).1
  let g := g.refine states (states.size + cores) states.size
  let joined := g.groups.map fun group =>
    (group.extract 1 group.size).foldl (fun s i => s.join states[i]!) (states[group.getD 0 0]!)
  { a with states := joined.map (·.renumber fun s => g.groupOf.getD s 0) }

def Automaton.bypass (a : Automaton) (traceless : Nat → Bool) (s : State) : Option Nat :=
  let rules := s.actions.foldl (fun seen actions => actions.foldl (fun seen action =>
    match seen, action with
    | none, _ => none
    | some seen, .shiftExtra => some seen
    | some seen, .reduce r =>
      let r := a.reductions.getD r default
      let plain := r.children == #[⟨none, none⟩] && r.favour == 0 && traceless r.rule
      if plain && seen.all (· == r.rule) then some [r.rule] else none
    | some _, _ => none) seen) (some [])
  match rules with
  | some [r] => some r
  | _ => none

def Automaton.shortened (a : Automaton) (terminals : Nat) (traceless : Nat → Bool) : Automaton :=
  let bypasses := a.states.map (a.bypass traceless)
  let past (s : State) (target : Nat) : Nat :=
    match bypasses.getD target none with
    | none => target
    | some rule =>
      match s.gotos.find? (·.1 == terminals + rule) with
      | some (_, beyond) => beyond
      | none => target
  let step (s : State) : State := s.renumber (past s)
  { a with states := a.states.map fun s => (List.range 8).foldl (fun s _ => step s) s }

end CodeAppraisal.Grammar
