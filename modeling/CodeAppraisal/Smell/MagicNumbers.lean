import CodeAppraisal.Smell.Basic
import CodeAppraisal.Text.Word

/-!
Numbers of two or more digits anywhere in the text, comments and strings included.
-/
namespace CodeAppraisal

open Parsing

def isMagicNumber (word : List Char) : Bool :=
  word.length ≥ 2 && word.all Text.isDecimalDigit

def hasMagicNumber (text : List Char) : Bool := (Text.words text).any isMagicNumber

def magicNumbers (m : SourceModule) : List Smell :=
  if hasMagicNumber m.source.chars.toList then [.magicNumbers] else []

def magicNumbersDetector : Detector where
  name := "magic-numbers"
  description := "Detects unnamed numeric literals"
  detect _ := magicNumbers

end CodeAppraisal
