import Std.Data.HashMap
import CodeAppraisal.Grammar.Merging
import CodeAppraisal.Grammar.Python
import CodeAppraisal.Parsing.Layout

/-!
A grammar made ready for parsing: its automaton, and its tokens by text.
-/
namespace CodeAppraisal.Parsing

open CodeAppraisal.Grammar

structure LayoutSymbols where
  newline : Symbol
  indent : Symbol
  dedent : Symbol
  stringStart : Symbol
  stringContent : Symbol
  escapedBrace : Symbol
  stringEnd : Symbol
  exceptWord : Symbol
  closing : List Symbol
  deriving Inhabited

structure Language where
  grammar : Normal
  states : Array State
  reductions : Array Reduction
  accepted : Array TokenSet
  keywords : Std.HashMap String Symbol
  keywordTokens : TokenSet
  reserved : TokenSet
  marks : Array (List Char × Symbol)
  classes : Array (TokenClass × Symbol)
  layout : LayoutSymbols
  deriving Inhabited

namespace Language

private def token (g : Normal) (name : String) : Symbol :=
  (g.terminals.findIdx? fun t => t.name == name).getD 0

/-- The tokens whose text another one's may go on from: those are never added to a state that has
these, for the text would be read differently. -/
private def extensions : List (String × String) :=
  [(":=", ":"), ("**", "*"), ("ellipsis", "."), ("float", "integer"), ("except*", "except")]

private def mergeRules (g : Normal) : MergeRules where
  fixed := g.terminals.size.fold (fun t _ set =>
      match g.terminals[t].shape with
      | .layout _ => set.insert t
      | _ => set)
    (TokenSet.ofList (["comment", ")", "]", "\x7d", "except"].map (token g)))
  clashes := (Array.range g.terminals.size).map fun t =>
    TokenSet.ofList ((extensions.filter fun e => token g e.1 == t).map fun e => token g e.2)

private def isKeyword (t : String) : Bool := t.all fun c => c.isAlpha || c == '_'

private def traceless (g : Normal) (rule : Nat) : Bool :=
  let n := g.nonterminals.getD rule default
  let renamed := g.productions.any fun ps => ps.any fun p => p.steps.any fun s =>
    s.symbol == g.terminals.size + rule && s.shownAs.isSome
  (n.repeated || n.name.startsWith "_") && !renamed

def ofDescription (d : Description) : Language :=
  let g := d.normalize
  let unread (t : Nat) : Bool := (g.terminals.getD t default).shape == .ofClass .formatText
  let automaton := (((g.automaton unread 100000).merged (mergeRules g)).shortened
    g.terminals.size (traceless g))
  let fixed : Array (String × Symbol) := (Array.range g.terminals.size).filterMap fun t =>
    match (g.terminals.getD t default).shape with
    | .text s => some (s, t)
    | _ => none
  { grammar := g
    states := automaton.states
    reductions := automaton.reductions
    accepted := automaton.states.map State.tokens
    keywords := Std.HashMap.ofList (fixed.filter fun p => isKeyword p.1).toList
    keywordTokens := TokenSet.ofList ((fixed.filter fun p => isKeyword p.1).map (·.2)).toList
    reserved := TokenSet.ofList ((fixed.filter fun p => d.reserved.contains p.1).map (·.2)).toList
    marks := (fixed.filter fun p => !isKeyword p.1).map fun p => (p.1.toList, p.2)
    classes := (Array.range g.terminals.size).filterMap fun t =>
      match (g.terminals.getD t default).shape with
      | .ofClass c => some (c, t)
      | _ => none
    layout :=
      { newline := token g "_newline", indent := token g "_indent", dedent := token g "_dedent"
        stringStart := token g "string_start", stringContent := token g "_string_content"
        escapedBrace := token g "escape_interpolation", stringEnd := token g "string_end"
        exceptWord := token g "except", closing := [")", "]", "\x7d"].map (token g) } }

def expected (l : Language) (tokens : TokenSet) : Expected :=
  let has (s : Symbol) : Bool := tokens.contains s
  { newline := has l.layout.newline, indent := has l.layout.indent, dedent := has l.layout.dedent
    stringStart := has l.layout.stringStart, stringContent := has l.layout.stringContent
    escapedBrace := has l.layout.escapedBrace, exceptWord := has l.layout.exceptWord
    closing := l.layout.closing.any has }

def layoutSymbol (l : Language) : LayoutToken → Symbol
  | .newline => l.layout.newline
  | .indent => l.layout.indent
  | .dedent => l.layout.dedent
  | .stringStart => l.layout.stringStart
  | .stringContent => l.layout.stringContent
  | .escapedBrace => l.layout.escapedBrace
  | .stringEnd => l.layout.stringEnd

def isReserved (l : Language) (state : Nat) (token : Symbol) : Bool :=
  l.reserved.contains token && (l.accepted.getD state .empty).contains l.grammar.word

def actions (l : Language) (state : Nat) (token : Symbol) : Array Action :=
  match l.states[state]? with
  | some s => s.actions.getD token #[]
  | none => #[]

def hasActions (l : Language) (state : Nat) (token : Symbol) : Bool :=
  !(l.actions state token).isEmpty

def reducesFirst (l : Language) (state : Nat) (token : Symbol) : Bool :=
  match (l.actions state token)[0]? with
  | some (Action.reduce _) => true
  | _ => false

def afterToken (l : Language) (state : Nat) (token : Symbol) : Option Nat :=
  match (l.actions state token).back? with
  | some (Action.shift s _) => some s
  | some Action.shiftExtra => some state
  | _ => none

def afterRule (l : Language) (state : Nat) (symbol : Symbol) : Nat :=
  match l.states[state]? with
  | some s => ((s.gotos.find? (·.1 == symbol)).map (·.2)).getD lost
  | none => lost

def isExtra (l : Language) (token : Symbol) : Bool := l.grammar.extras.contains token

end Language

def python : Thunk Language := Thunk.mk fun _ => Language.ofDescription Python.description

end CodeAppraisal.Parsing
