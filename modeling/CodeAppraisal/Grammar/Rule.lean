/-!
Rules of a context-free grammar as they are written down: tokens, references, sequences, choices and
repetitions, decorated with ranks (which settle ambiguities), field names and display names.
-/
namespace CodeAppraisal.Grammar

inductive Side where
  | left
  | right
  deriving DecidableEq, Hashable, Repr

inductive TokenClass where
  | identifier
  | integer
  | float
  | comment
  | lineJoin
  | escape
  | loneBackslash
  | conversion
  | formatText
  deriving DecidableEq, Hashable, Repr

structure Alias where
  name : String
  named : Bool
  deriving DecidableEq, Hashable, Repr

inductive Rule where
  | blank
  | text (t : String)
  | token (c : TokenClass)
  | ref (name : String)
  | seq (first second : Rule)
  | alt (first second : Rule)
  | many1 (body : Rule)
  | ranked (rank : Int) (side : Option Side) (body : Rule)
  | favoured (rank : Int) (body : Rule)
  | field (name : String) (body : Rule)
  | shownAs (name : Alias) (body : Rule)
  deriving DecidableEq, Hashable, Repr, Inhabited

namespace Rule

def inOrder : List Rule → Rule
  | [] => .blank
  | [r] => r
  | r :: rs => .seq r (inOrder rs)

def oneOf : List Rule → Rule
  | [] => .blank
  | [r] => r
  | r :: rs => .alt r (oneOf rs)

def optional (r : Rule) : Rule := .alt r .blank

def many (r : Rule) : Rule := .alt (.many1 r) .blank

def separated (separator : String) (r : Rule) : Rule :=
  .seq r (many (.seq (.text separator) r))

def commas (r : Rule) : Rule := separated "," r

def commasTrailing (r : Rule) : Rule := inOrder [commas r, optional (.text ",")]

def rank (level : Int) (r : Rule) : Rule := .ranked level none r

def leftward (level : Int) (r : Rule) : Rule := .ranked level (some .left) r

def rightward (level : Int) (r : Rule) : Rule := .ranked level (some .right) r

def shown (name : String) (r : Rule) : Rule := .shownAs ⟨name, true⟩ r

def shownText (name : String) (r : Rule) : Rule := .shownAs ⟨name, false⟩ r

end Rule

structure Description where
  rules : List (String × Rule)
  layout : List String
  extras : List String
  inlined : List String
  /-- Rules that leave no node of their own, beside those whose name starts with an underscore. -/
  hidden : List String
  /-- The token class that words with a meaning of their own also belong to. -/
  word : String
  reserved : List String

end CodeAppraisal.Grammar
