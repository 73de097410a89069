import CodeAppraisal.Smell.Basic

/-!
Functions with too many plain positional parameters: those after `/` and before `*`.
-/
namespace CodeAppraisal

open Parsing

inductive ParameterKind where
  | positional
  | slash
  | star
  | other
  deriving DecidableEq, Repr

def isSplat (t : SyntaxTree) : Bool :=
  t.kind == "list_splat_pattern" || t.kind == "dictionary_splat_pattern"

def ParameterKind.ofTree (t : SyntaxTree) : ParameterKind :=
  match t.kind with
  | "identifier" | "default_parameter" | "typed_default_parameter" => .positional
  | "typed_parameter" => if t.namedChildren.any isSplat then .star else .positional
  | "positional_separator" => .slash
  | "keyword_separator" | "list_splat_pattern" | "dictionary_splat_pattern" => .star
  | _ => .other

def countPositional (count : Nat) : List ParameterKind → Nat
  | [] => count
  | .positional :: rest => countPositional (count + 1) rest
  | .slash :: rest => countPositional 0 rest
  | .star :: _ => count
  | .other :: rest => countPositional count rest

def positionalParameters (t : SyntaxTree) : Nat :=
  match t.child? "parameters" with
  | some ps => countPositional 0 (ps.namedChildren.map ParameterKind.ofTree)
  | none => 0

def manyParameters (limit : Nat) (m : SourceModule) : List Smell :=
  (plainFunctions m.root).filterMap fun t =>
    if positionalParameters t > limit then
      some (.manyParameters (m.nameOf t) (positionalParameters t))
    else none

def manyParametersDetector : Detector where
  name := "long-parameter-list"
  description := "Detects functions with too many positional parameters"
  detect thresholds := manyParameters thresholds.maxParameters

end CodeAppraisal
