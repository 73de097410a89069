import CodeAppraisal.Grammar.Rule

/-!
A grammar in normal form: numbered symbols, and for each rule its alternatives as flat rows of
steps. Repetitions become rules of their own that grow as binary trees.
-/
namespace CodeAppraisal.Grammar

/-- A number for a token or a rule; all tokens come before all rules, the end of input is 0. -/
abbrev Symbol := Nat

inductive Shape where
  | endOfInput
  | text (t : String)
  | ofClass (c : TokenClass)
  | layout (name : String)
  deriving DecidableEq, Repr, Inhabited

structure Terminal where
  name : String
  shape : Shape
  visible : Bool
  named : Bool
  deriving Repr, Inhabited

structure Nonterminal where
  name : String
  visible : Bool
  repeated : Bool
  deriving Repr, Inhabited

structure Step where
  symbol : Symbol
  rank : Option Int
  side : Option Side
  shownAs : Option Alias
  field : Option String
  deriving DecidableEq, Hashable, Repr, Inhabited

structure Production where
  steps : Array Step
  favour : Int
  deriving DecidableEq, Hashable, Repr, Inhabited

structure Normal where
  terminals : Array Terminal
  nonterminals : Array Nonterminal
  productions : Array (Array Production)
  start : Symbol
  word : Symbol
  extras : List Symbol
  deriving Inhabited

namespace Rule

def token? : Rule → Option Shape
  | .text t => some (.text t)
  | .token c => some (.ofClass c)
  | _ => none

def countTokens (seen : Array (Shape × Nat)) : Rule → Array (Shape × Nat)
  | .text t => add (.text t)
  | .token c => add (.ofClass c)
  | .blank | .ref _ => seen
  | .seq a b | .alt a b => countTokens (countTokens seen a) b
  | .many1 b | .ranked _ _ b | .favoured _ b | .field _ b | .shownAs _ b => countTokens seen b
where
  add (s : Shape) : Array (Shape × Nat) :=
    match seen.findIdx? (·.1 == s) with
    | some i => seen.modify i fun p => (p.1, p.2 + 1)
    | none => seen.push (s, 1)

def repetitionName (n : Nat) : String := s!"repetition {n}"

def nameRepetitions : Rule → StateM (Array Rule) Rule
  | .many1 b => do
    let b ← nameRepetitions b
    let known ← get
    match known.findIdx? (· == b) with
    | some i => return .ref (repetitionName i)
    | none =>
      set (known.push b)
      return .ref (repetitionName known.size)
  | .seq a b => return .seq (← nameRepetitions a) (← nameRepetitions b)
  | .alt a b => return .alt (← nameRepetitions a) (← nameRepetitions b)
  | .ranked n s b => return .ranked n s (← nameRepetitions b)
  | .favoured n b => return .favoured n (← nameRepetitions b)
  | .field n b => return .field n (← nameRepetitions b)
  | .shownAs n b => return .shownAs n (← nameRepetitions b)
  | r => return r

def alternatives : Rule → List Rule
  | .alt a b => alternatives a ++ alternatives b
  | .seq a b => (alternatives a).flatMap fun x => (alternatives b).map fun y => .seq x y
  | .ranked n s b => (alternatives b).map (.ranked n s)
  | .favoured n b => (alternatives b).map (.favoured n)
  | .field n b => (alternatives b).map (.field n)
  | .shownAs n b => (alternatives b).map (.shownAs n)
  | r => [r]

def favour (strongest : Int) : Rule → Int
  | .favoured n b => favour (if n.natAbs > strongest.natAbs then n else strongest) b
  | .seq a b => favour (favour strongest a) b
  | .ranked _ _ b | .field _ b | .shownAs _ b => favour strongest b
  | _ => strongest

/--
The steps of an alternative. What surrounds a part decorates its steps; the last step of a ranked
part that does not end the row ranks like the surroundings, since the part is complete after it.
-/
def steps (number : Rule → Option Symbol) (around : Step) (atEnd : Bool) : Rule → Array Step
  | .seq a b => steps number around (atEnd && false) a ++ steps number around atEnd b
  | .ranked n s b =>
    let inner := steps number { around with rank := some n, side := s <|> around.side } atEnd b
    if atEnd then inner
    else inner.modify (inner.size - 1) fun last =>
      { last with rank := around.rank, side := if s.isSome then around.side else last.side }
  | .favoured _ b => steps number around atEnd b
  | .field n b => steps number { around with field := some n } atEnd b
  | .shownAs n b => steps number { around with shownAs := some n } atEnd b
  | r => match number r with
    | some symbol => #[{ around with symbol }]
    | none => #[]

end Rule

namespace Production

def ofAlternative (number : Rule → Option Symbol) (r : Rule) : Production where
  steps := r.steps number ⟨0, none, none, none, none⟩ true
  favour := r.favour 0

def splice (q : Production) (i : Nat) (outer : Step) (p : Production) : Production where
  steps := q.steps.extract 0 i ++ finished ++ q.steps.extract (i + 1) q.steps.size
  favour := if p.favour.natAbs > q.favour.natAbs then p.favour else q.favour
where
  decorated := p.steps.map fun s =>
    { s with shownAs := outer.shownAs <|> s.shownAs, field := outer.field <|> s.field }
  finished := decorated.modify (decorated.size - 1) fun s =>
    { s with rank := s.rank <|> outer.rank, side := s.side <|> outer.side }

def inlined (bodies : Symbol → Option (Array Production)) : Nat → Production → Array Production
  | 0, p => #[p]
  | fuel + 1, p =>
    match p.steps.findIdx? fun s => (bodies s.symbol).isSome with
    | none => #[p]
    | some i =>
      let outer := p.steps[i]!
      ((bodies outer.symbol).getD #[]).flatMap fun body =>
        inlined bodies fuel (p.splice i outer body)

end Production

private def dedup [BEq α] (xs : Array α) : Array α :=
  xs.foldl (fun kept x => if kept.contains x then kept else kept.push x) #[]

/-- The tokens of a grammar: the end of input, the word class, the others in order of use, and the
layout tokens last. A rule that is one token used nowhere else gives the token its name. -/
def Description.terminals (d : Description) : Array Terminal :=
  let used := d.rules.foldl (fun seen r => r.2.countTokens seen) #[]
  let named := used.map fun (shape, uses) =>
    match d.rules.find? fun r => r.2.token? == some shape with
    | some (name, _) =>
      if uses == 1 then Terminal.mk name shape (!name.startsWith "_") true
      else anonymous shape
    | none => anonymous shape
  let word := named.filter (·.name == d.word)
  let others := named.filter (·.name != d.word)
  let layout := d.layout.toArray.map fun name => ⟨name, .layout name, !name.startsWith "_", true⟩
  #[⟨"end", .endOfInput, false, false⟩] ++ word ++ others ++ layout
where
  anonymous : Shape → Terminal
    | .text t => ⟨t, .text t, true, false⟩
    | s => ⟨"", s, false, false⟩

/-- The rules that are more than a name for a token, with their repetitions named, and after them
one rule for each repetition: either two of itself or its body. -/
def Description.syntacticRules (d : Description) (terminals : Array Terminal) :
    Array (Nonterminal × Rule) :=
  let kept := (d.rules.filter fun r => !isToken r.1).toArray
  let go : StateM (Array Rule) (Array Rule) := kept.mapM fun r => r.2.nameRepetitions
  let (bodies, repetitions) := go.run #[]
  let written := (kept.zip bodies).map fun (r, body) => (nonterminal r.1, body)
  let made := repetitions.mapIdx fun i body =>
    let name := Rule.repetitionName i
    (⟨name, false, true⟩, .alt (.seq (.ref name) (.ref name)) body)
  written ++ made
where
  isToken (name : String) := terminals.any fun t => t.named && t.name == name
  nonterminal (name : String) : Nonterminal :=
    ⟨name, !name.startsWith "_" && !d.hidden.contains name, false⟩

def symbolOf (terminals : Array Terminal) (rules : Array (Nonterminal × Rule)) :
    Rule → Option Symbol
  | .ref name =>
    match terminals.findIdx? fun t => t.named && t.name == name with
    | some i => some i
    | none => (rules.findIdx? fun r => r.1.name == name).map (terminals.size + ·)
  | .text t => terminals.findIdx? (·.shape == .text t)
  | .token c => terminals.findIdx? (·.shape == .ofClass c)
  | _ => none

def Description.normalize (d : Description) : Normal :=
  let terminals := d.terminals
  let rules := d.syntacticRules terminals
  let number := symbolOf terminals rules
  let flat : Array (Array Production) := rules.map fun r =>
    dedup ((r.2.alternatives.map (Production.ofAlternative number)).toArray)
  let inlinedBody (s : Symbol) : Option (Array Production) :=
    if s < terminals.size then none
    else match rules[s - terminals.size]? with
      | some r => if d.inlined.contains r.1.name then flat[s - terminals.size]? else none
      | none => none
  { terminals
    nonterminals := rules.map (·.1)
    productions := flat.map fun ps => dedup (ps.flatMap (Production.inlined inlinedBody 16))
    start := terminals.size
    word := (number (.ref d.word)).getD 0
    extras := d.extras.filterMap fun name => number (.ref name) }

end CodeAppraisal.Grammar
