import CodeAppraisal.Parsing.Parse
import CodeAppraisal.Parsing.SyntaxTree

/-!
Modules: source texts with their trees.
-/
namespace CodeAppraisal.Parsing

open CodeAppraisal.Grammar

namespace Fragment

theorem sizeOf_lt_of_mem {f c : Fragment} (h : c ∈ f.children) : sizeOf c < sizeOf f := by
  cases f
  have := Array.sizeOf_lt_of_mem h
  simp only [mk.sizeOf_spec] at this ⊢
  omega

def kind (l : Language) (f : Fragment) : String :=
  if f.isError then "ERROR"
  else if f.symbol < l.grammar.terminals.size then
    (l.grammar.terminals.getD f.symbol default).name
  else (l.grammar.nonterminals.getD (f.symbol - l.grammar.terminals.size) default).name

def decorated (f : Fragment) : List Decoration :=
  (f.children.toList.foldl (fun (ds, place) c =>
    if c.extra then (⟨none, none⟩ :: ds, place)
    else (f.decorations.getD place ⟨none, none⟩ :: ds, place + 1)) ([], 0)).1.reverse

/--
The visible nodes of a fragment, with others after them: one node, or if the fragment is not shown,
those of its children. The part that a hidden fragment plays falls to its first node.
-/
def toTrees (l : Language) (d : Decoration) (f : Fragment) (after : List SyntaxTree) :
    List SyntaxTree :=
  let below (after : List SyntaxTree) : List SyntaxTree :=
    (f.children.attach.toList.zip f.decorated).foldr
      (fun (⟨c, _⟩, d) after => toTrees l d c after) after
  if f.visible || d.shownAs.isSome then
    let info : NodeInfo :=
      { kind := (d.shownAs.map (·.name)).getD (f.kind l)
        named := (d.shownAs.map (·.named)).getD f.named
        field := d.field, start := f.start, stop := f.stop
        status := if f.isError then .error else if f.missing then .missing else .sound
        damaged := f.cost > 0 }
    .node info (below []) :: after
  else if d.field.isNone then below after
  else
    match below [] with
    | .node i cs :: rest => .node { i with field := d.field } cs :: (rest ++ after)
    | [] => after
termination_by f
decreasing_by exact sizeOf_lt_of_mem ‹_›

end Fragment

structure SourceModule where
  source : Source
  root : SyntaxTree

namespace SourceModule

def text (m : SourceModule) (t : SyntaxTree) : List Char := m.source.slice t.start t.stop

def nameOf (m : SourceModule) (t : SyntaxTree) : String :=
  match t.child? "name" with
  | some n => String.ofList (m.text n)
  | none => "<anonymous>"

end SourceModule

structure Fault where
  missing : Option String
  place : Position
  deriving DecidableEq, Repr

namespace Fault

def line (f : Fault) : Nat := f.place.row + 1

def column (f : Fault) : Nat := f.place.column + 1

def message (f : Fault) : String :=
  match f.missing with
  | some kind => s!"expected '{kind}' (<string>, line {f.line})"
  | none => s!"invalid syntax (<string>, line {f.line})"

def ofTree (t : SyntaxTree) : Fault :=
  ⟨if t.info.status = .missing then some t.kind else none, t.start⟩

end Fault

def Source.tree (src : Source) : SyntaxTree :=
  let l := python.get
  let root := l.parse src
  match root.toTrees l ⟨none, none⟩ [] with
  | t :: _ => t
  | [] => .node ⟨"module", true, none, .zero, .zero, .sound, root.cost > 0⟩ []

def SourceModule.ofTree (src : Source) (root : SyntaxTree) : Except Fault SourceModule :=
  match root.fault? with
  | some t => .error (Fault.ofTree t)
  | none => .ok ⟨src, root⟩

def SourceModule.ofSource (src : Source) : Except Fault SourceModule :=
  SourceModule.ofTree src src.tree

def SourceModule.ofString (s : String) : Except Fault SourceModule :=
  SourceModule.ofSource (Source.ofString s)

end CodeAppraisal.Parsing
