import CodeAppraisal.Report.Upload
import CodeAppraisal.Proofs.Text.Utf8

/-!
This module shows that a text is reported on alike whether it is pasted or uploaded, and which texts
and files get no report.
-/
namespace CodeAppraisal.Analyzer

open Text Classifier

variable {α : Type}

def Allows (a : Analyzer α) (filename : String) : Prop :=
  ∃ e ∈ a.extensions, e.toList <:+ filename.toList

theorem accepts_iff {a : Analyzer α} {filename : String} :
    a.accepts filename ↔ a.Allows filename := by
  simp [accepts, Allows]

variable [Quantity α]

theorem analyzeText_eq {a : Analyzer α} {code : String} :
    a.analyzeText code = if code = "" then .error .emptyInput else .ok (a.analyze code) := by
  simp [analyzeText]

theorem analyzeText_eq_ok_iff {a : Analyzer α} {code : String} {report : AnalysisReport α} :
    a.analyzeText code = .ok report ↔ code ≠ "" ∧ report = a.analyze code := by
  rw [analyzeText_eq]
  split
  next h => simp [h]
  next h => simp [h, eq_comm]

theorem analyzeText_eq_error_iff {a : Analyzer α} {code : String} {e : InputError} :
    a.analyzeText code = .error e ↔ code = "" ∧ e = .emptyInput := by
  rw [analyzeText_eq]
  split
  next h => simp [h, eq_comm]
  next h => simp [h]

section Upload

variable {a : Analyzer α} {filename : String} {content : ByteArray}

theorem analyzeUpload_of_not_allows (h : ¬ a.Allows filename) :
    a.analyzeUpload filename content = .error (.unsupportedExtension filename) :=
  if_neg (mt accepts_iff.mp h)

theorem analyzeUpload_of_allows (h : a.Allows filename) :
    a.analyzeUpload filename content =
      match ofUtf8 content with
      | .ok code => .ok { a.analyze code with filename := some filename }
      | .error fault => .error (.invalidUtf8 filename fault) :=
  if_pos (accepts_iff.mpr h)

theorem analyzeUpload_eq_ok_iff {report : AnalysisReport α} :
    a.analyzeUpload filename content = .ok report ↔
      a.Allows filename ∧ ∃ code : String, content = code.toUTF8 ∧
        report = { a.analyze code with filename := some filename } := by
  by_cases h : a.Allows filename
  case pos =>
    simp only [analyzeUpload_of_allows h, h, true_and, ← ofUtf8_eq_ok_iff]
    cases ofUtf8 content <;> simp [eq_comm]
  case neg => simp [analyzeUpload_of_not_allows h, h]

theorem analyzeUpload_eq_error_iff {e : InputError} :
    a.analyzeUpload filename content = .error e ↔
      ¬ a.Allows filename ∧ e = .unsupportedExtension filename ∨
      a.Allows filename ∧ ∃ fault, utf8FaultFrom? 0 content.toList = some fault ∧
        e = .invalidUtf8 filename fault := by
  by_cases h : a.Allows filename
  case pos =>
    simp only [analyzeUpload_of_allows h, h, true_and, not_true, false_and, false_or,
      ← ofUtf8_eq_error_iff]
    cases ofUtf8 content <;> simp [eq_comm]
  case neg => simp [analyzeUpload_of_not_allows h, h, eq_comm]

end Upload

theorem exists_fault_iff {content : ByteArray} :
    (∃ fault, utf8FaultFrom? 0 content.toList = some fault) ↔ ¬ content.IsValidUTF8 := by
  rw [isValidUTF8_iff, ← utf8FaultFrom?_eq_none_iff 0, ← ne_eq, Option.ne_none_iff_exists']

/-- An uploaded text gets the report of the pasted one with the name of the file filled in. Nothing
is refused but files of other extensions, whatever they hold, then bytes that are no text, at their
first fault, and on the other way the empty text. -/
theorem analyzeUpload_agrees (a : Analyzer α) :
    (∀ code filename : String, code ≠ "" → a.Allows filename →
      ∃ report, a.analyzeText code = .ok report ∧
        a.analyzeUpload filename code.toUTF8 = .ok { report with filename := some filename }) ∧
    (∀ filename content e, a.analyzeUpload filename content = .error e ↔
      ¬ a.Allows filename ∧ e = .unsupportedExtension filename ∨
      a.Allows filename ∧ ¬ content.IsValidUTF8 ∧
        ∃ fault, utf8FaultFrom? 0 content.toList = some fault ∧ e = .invalidUtf8 filename fault) ∧
    (∀ filename filename' content fault,
      a.analyzeUpload filename content = .error (.invalidUtf8 filename' fault) →
        ∃ (text : String) (rest : List UInt8), content.toList = text.toUTF8.toList ++ rest ∧
          fault.index = text.toUTF8.size ∧ ∀ c, ¬ String.utf8EncodeChar c <+: rest) ∧
    ∀ code e, a.analyzeText code = .error e ↔ code = "" ∧ e = .emptyInput := by
  refine ⟨?_, ?_, ?_, ?_⟩
  . intro code filename hcode hallows
    refine ⟨a.analyze code, analyzeText_eq_ok_iff.mpr ⟨hcode, rfl⟩, ?_⟩
    exact analyzeUpload_eq_ok_iff.mpr ⟨hallows, code, rfl, rfl⟩
  . intro filename content e
    rw [analyzeUpload_eq_error_iff, ← exists_fault_iff]
    grind
  . intro filename filename' content fault h
    obtain ⟨-, herror⟩ | ⟨-, fault', hfault, herror⟩ := analyzeUpload_eq_error_iff.mp h
    . cases herror
    . injection herror with _ heq
      subst heq
      exact exists_text_of_fault hfault
  . exact fun code e => analyzeText_eq_error_iff

theorem analyzeUpload_agrees_tool :
    let a : Analyzer Float :=
      ⟨⟨QualityClassifier.freshVectorizer, QualityClassifier.freshForest⟩, {}, [".py"]⟩
    ∃ report, a.analyzeText "def café():" = .ok report ∧
      a.analyzeUpload "tool.py" "def café():".toUTF8 =
        .ok { report with filename := some "tool.py" } := by
  intro a
  have hallows : a.Allows "tool.py" := ⟨".py", List.mem_singleton.mpr rfl, by decide⟩
  exact (analyzeUpload_agrees a).1 "def café():" "tool.py" (by decide) hallows

end CodeAppraisal.Analyzer
