import CodeAppraisal.CommandLine.Arguments
import CodeAppraisal.CommandLine.TextReport
import CodeAppraisal.Config.Load
import CodeAppraisal.Json.Writer
import CodeAppraisal.Report.Codec
import CodeAppraisal.Report.Upload

/-!
What a run does in its surroundings, and what comes of it.
-/
namespace CodeAppraisal.CommandLine

open Classifier

inductive Outcome where
  | printed (text : String)
  | failed (message : String) (cause : Option ConfigError)
  | stopped (stop : UsageStop)
  | serving (config : Config)

namespace Outcome

def exitCode : Outcome → Nat
  | .printed _ | .serving _ => 0
  | .failed .. => 1
  | .stopped stop => stop.exitCode

end Outcome

def reportText (r : AnalysisReport Float) : OutputFormat → String
  | .text => textReport r
  | .json => Json.indented r.encode ++ "\n"

def reported (format : OutputFormat) : Except InputError (AnalysisReport Float) → Outcome
  | .ok r => .printed (reportText r format)
  | .error e => .failed e.message none

def analyzerOf (classifier : QualityClassifier Float) (config : Config) : Analyzer Float where
  classifier := classifier
  thresholds := config.smells
  extensions := config.server.allowedExtensions

def namesInput (path : String) : Bool := !path.startsWith "/" && pathParts path == ["-"] &&
  path.startsWith "-"

variable {m : Type → Type} [Monad m]

def analyze (s : Surroundings m) (a : Analyzer Float) (file : String) (format : OutputFormat) :
    m Outcome := do
  if namesInput file then
    match Text.ofUtf8 (← s.input) with
    | .ok code => return reported format (a.analyzeText code)
    | .error _ => return .failed "Failed to read stdin" none
  else
    match (← s.read file).contents? with
    | some contents =>
      return reported format (a.analyzeUpload ((fileName? file).getD file) contents)
    | none => return .failed s!"Failed to read {file}" none

def init (s : Surroundings m) (force : Bool) : m Outcome := do
  let path := Config.defaultPath
  if (← s.read path).exists? && !force then
    return .printed s!"✓ {path} already exists (use --force to overwrite)\n"
  else if ← s.write path Config.exampleFile then
    return .printed (ofLines [s!"✓ Created {path}", "", "Next steps:",
      "  pyreview serve Start the service", "  pyreview analyze app.py Analyze a file"])
  else return .failed s!"Failed to write {path}" none

def servingConfig (config : Config) (host : Option String) (port : Option Nat) : Config :=
  { config with server := { config.server with
    host := host.getD config.server.host
    port := port.getD config.server.port } }

def execute (s : Surroundings m) (classifier : Except ClassifierError (QualityClassifier Float))
    (config : Config) (command : Command) : m Outcome := do
  match classifier with
  | .error _ => return .failed "Failed to train the quality classifier" none
  | .ok classifier =>
    match command with
    | .analyze file format => analyze s (analyzerOf classifier config) file format
    | .serve host port => return .serving (servingConfig config host port)
    | .init force => init s force

def run (s : Surroundings m) (classifier : Except ClassifierError (QualityClassifier Float))
    (args : List String) : m Outcome := do
  match Invocation.ofArguments args with
  | .error stop => return .stopped stop
  | .ok ⟨_, .init force⟩ => init s force
  | .ok ⟨named, command⟩ =>
    match ← Config.load s named with
    | .error e => return .failed "Failed to load configuration" (some e)
    | .ok config => execute s classifier config command

end CodeAppraisal.CommandLine
