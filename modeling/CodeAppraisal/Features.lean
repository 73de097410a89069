import CodeAppraisal.Quantity
import CodeAppraisal.Text.Pattern

/-!
Features of a source text that show without reading it as a program, so that texts with faults have
them too.
-/
namespace CodeAppraisal

open Text

structure FeatureVector (α : Type) where
  lineLengthAverage : α
  hasDocstrings : Bool
  hasTypeHints : Bool
  numComments : Nat
  numFunctions : Nat
  numClasses : Nat
  hasMainGuard : Bool
  usesComprehension : Bool
  properNaming : Bool
  deriving DecidableEq, Repr

def isSmallStart (c : Char) : Bool := c.isLower || c == '_'

variable {α : Type} [Quantity α]

def FeatureVector.ofChars (code : List Char) : FeatureVector α :=
  let lines := splitLines code
  { lineLengthAverage :=
      Quantity.ofNat (addUp (lines.map List.length)) / Quantity.ofNat lines.length
    hasDocstrings := occursIn "\"\"\"".toList code || occursIn "'''".toList code
    hasTypeHints := occursIn "->".toList code || occursIn ": ".toList code
    numComments := countComments code
    numFunctions := countDefinitions "def".toList code
    numClasses := countDefinitions "class".toList code
    hasMainGuard := occursIn "__main__".toList code
    usesComprehension := code.contains '[' && occursIn "for".toList code
    properNaming := occursBefore "def".toList isSmallStart code }

def FeatureVector.ofString (code : String) : FeatureVector α := .ofChars code.toList

end CodeAppraisal
