import CodeAppraisal.Proofs.Report.Upload
import CodeAppraisal.Service.Respond

/-!
This module shows that the answer to an upload depends on nothing but the first part named `file`,
whatever other parts there are.
-/
namespace CodeAppraisal.Service

def FirstFile (parts : List FormPart) (part : FormPart) : Prop :=
  ∃ before after, parts = before ++ part :: after ∧ part.name = some "file" ∧
    ∀ other ∈ before, other.name ≠ some "file"

theorem exists_firstFile {parts : List FormPart} {part : FormPart} (hmem : part ∈ parts)
    (hname : part.name = some "file") : ∃ first, FirstFile parts first := by
  induction parts with
  | nil => cases hmem
  | cons other rest ih =>
    by_cases hother : other.name = some "file"
    . exact ⟨other, [], rest, rfl, hother, by simp⟩
    . have hrest : part ∈ rest := by
        cases hmem with
        | head => exact absurd hname hother
        | tail _ hrest => exact hrest
      obtain ⟨first, before, after, rfl, hfirst, hbefore⟩ := ih hrest
      exact ⟨first, other :: before, after, rfl, hfirst, List.forall_mem_cons.mpr ⟨hother, hbefore⟩⟩

section Analysis

variable {α : Type} [Quantity α] {a : Analyzer α} {ending : FormEnd}

theorem analyzeFile_eq (filename : Option String) (content : List UInt8) :
    analyzeFile a filename (.ok content) =
      accepted (a.analyzeUpload (filename.getD "") ⟨content.toArray⟩) := by
  -- the name is checked twice, with one result
  unfold analyzeFile Analyzer.checkExtension
  dsimp only
  by_cases h : a.accepts (filename.getD "")
  . rw [if_pos h]
  . rw [if_neg h, Analyzer.analyzeUpload_of_not_allows (mt Analyzer.accepts_iff.mpr h)]
    rfl

theorem analyzeParts_append {before parts : List FormPart}
    (h : ∀ other ∈ before, other.name ≠ some "file") :
    analyzeParts a ending (before ++ parts) = analyzeParts a ending parts := by
  induction before with
  | nil => rfl
  | cons other before ih =>
    rw [List.forall_mem_cons] at h
    rw [List.cons_append, analyzeParts, isFile, if_neg (by simpa using h.1), ih h.2]

theorem FirstFile.analyzeParts_eq {parts : List FormPart} {part : FormPart}
    (h : FirstFile parts part) :
    analyzeParts a ending parts =
      accepted (a.analyzeUpload (part.filename.getD "") ⟨part.content.toArray⟩) := by
  obtain ⟨before, after, rfl, hname, hbefore⟩ := h
  rw [analyzeParts_append hbefore, analyzeParts, isFile, if_pos (by simpa using hname),
    analyzeFile_eq]

theorem analyzeParts_of_no_file {parts : List FormPart}
    (h : ∀ part ∈ parts, part.name ≠ some "file") :
    analyzeParts a .finished parts = .error .missingFile := by
  rw [← List.append_nil parts, analyzeParts_append h, analyzeParts]

end Analysis

structure Uploads (s : Service) (r : Request) (parts : List FormPart) : Prop where
  method_eq : r.method = .post
  path_eq : pathOf r.target = "/api/analyze"
  decoded : ∃ boundary, r.mediaType?.bind MediaType.boundary? = some boundary ∧
    Form.ofBytes s.maxUploadBytes boundary r.body = ⟨parts, .finished⟩

def missingAnswer : Response := .json 400 (.object [
  ("error", .string "MissingFile"),
  ("message", .string "No file provided in field 'file'"),
  ("code", .whole 400)])

def fileAnswer (a : Analyzer Float) (part : FormPart) : Response :=
  match a.analyzeUpload (part.filename.getD "") ⟨part.content.toArray⟩ with
  | .ok report => .json 200 report.encode
  | .error e => .json (if e.isClientError then 400 else 500) (Refusal.input e).encode

theorem fileAnswer_eq (a : Analyzer Float) (part : FormPart) : fileAnswer a part =
    reported (accepted (a.analyzeUpload (part.filename.getD "") ⟨part.content.toArray⟩)) := by
  unfold fileAnswer
  cases a.analyzeUpload (part.filename.getD "") ⟨part.content.toArray⟩ <;> rfl

theorem fileAnswer_ne_missingAnswer (a : Analyzer Float) (part : FormPart) :
    fileAnswer a part ≠ missingAnswer := by
  intro h
  unfold fileAnswer at h
  split at h
  . have hstatus : 200 = 400 := congrArg Response.status h
    cases hstatus
  . next e _ =>
    cases e with
    | unsupportedExtension filename =>
      -- the name is not told, so the two texts are there to be compared
      change Response.json 400 (Refusal.input (.unsupportedExtension "")).encode = _ at h
      exact absurd h (by decide +kernel)
    | emptyInput => exact absurd h (by decide +kernel)
    | invalidUtf8 filename fault =>
      have hstatus : 500 = 400 := congrArg Response.status h
      cases hstatus

section Answers

variable {s : Service} {r : Request} {parts : List FormPart}

theorem Uploads.respond_eq (h : Uploads s r parts) :
    s.respond r = reported (analyzeParts s.analyzer .finished parts) := by
  obtain ⟨boundary, hboundary, hform⟩ := h.decoded
  have hroute : Route.ofPath? (pathOf r.target) = some .upload := by rw [h.path_eq]; rfl
  unfold respond
  rw [h.method_eq, hroute]
  simp [Route.isRead, serve, respondUpload, hboundary, hform, analyzeForm]

theorem Uploads.respond_of_firstFile (h : Uploads s r parts) {part : FormPart}
    (hfirst : FirstFile parts part) : s.respond r = fileAnswer s.analyzer part := by
  rw [h.respond_eq, hfirst.analyzeParts_eq, fileAnswer_eq]

theorem Uploads.respond_of_no_file (h : Uploads s r parts)
    (hnone : ∀ part ∈ parts, part.name ≠ some "file") : s.respond r = missingAnswer := by
  rw [h.respond_eq, analyzeParts_of_no_file hnone]
  rfl

theorem Uploads.respond_eq_missingAnswer_iff (h : Uploads s r parts) :
    s.respond r = missingAnswer ↔ ∀ part ∈ parts, part.name ≠ some "file" := by
  constructor
  . intro hmissing part hmem hname
    obtain ⟨first, hfirst⟩ := exists_firstFile hmem hname
    rw [h.respond_of_firstFile hfirst] at hmissing
    exact fileAnswer_ne_missingAnswer s.analyzer first hmissing
  . exact h.respond_of_no_file

/-- An upload is answered by what its first part named `file` deserves, as is any other upload in
which this part is the first one with that name, and if there is none by saying so. -/
theorem respond_upload (h : Uploads s r parts) :
    (∀ part, FirstFile parts part → s.respond r = fileAnswer s.analyzer part ∧
      ∀ r' parts', Uploads s r' parts' → FirstFile parts' part → s.respond r' = s.respond r) ∧
    (s.respond r = missingAnswer ↔ ∀ part ∈ parts, part.name ≠ some "file") := by
  refine ⟨?_, h.respond_eq_missingAnswer_iff⟩
  intro part hfirst
  refine ⟨h.respond_of_firstFile hfirst, ?_⟩
  intro r' parts' h' hfirst'
  rw [h'.respond_of_firstFile hfirst', h.respond_of_firstFile hfirst]

end Answers

def partText (attributes content : String) : String :=
  "--B\r\nContent-Disposition: form-data; " ++ attributes ++ "\r\n\r\n" ++ content ++ "\r\n"

def uploadOf (parts : List String) : Request where
  method := .post
  target := "/api/analyze?from=editor"
  contentType := some "multipart/form-data; boundary=B"
  body := (String.join parts ++ "--B--\r\n").toUTF8.toList

theorem respond_upload_three :
    let s : Service := ⟨⟨⟨Classifier.QualityClassifier.freshVectorizer,
      Classifier.QualityClassifier.freshForest⟩, {}, [".py"]⟩, 1000, none⟩
    let note := partText "name=\"note\"" "first"
    let tool := partText "name=\"file\"; filename=\"tool.py\"" "x = 1"
    let other := partText "name=\"file\"; filename=\"other.txt\"" "y = 2"
    s.respond (uploadOf [note, tool, other]) =
        fileAnswer s.analyzer ⟨some "file", some "tool.py", "x = 1".toUTF8.toList⟩ ∧
      s.respond (uploadOf [tool]) = s.respond (uploadOf [note, tool, other]) ∧
      s.respond (uploadOf [note]) = missingAnswer := by
  intro s note tool other
  have hthree : Uploads s (uploadOf [note, tool, other])
      [⟨some "note", none, "first".toUTF8.toList⟩,
        ⟨some "file", some "tool.py", "x = 1".toUTF8.toList⟩,
        ⟨some "file", some "other.txt", "y = 2".toUTF8.toList⟩] :=
    ⟨rfl, by decide +kernel, "B", by decide +kernel, by decide +kernel⟩
  have htool : Uploads s (uploadOf [tool]) [⟨some "file", some "tool.py", "x = 1".toUTF8.toList⟩] :=
    ⟨rfl, by decide +kernel, "B", by decide +kernel, by decide +kernel⟩
  have hnote : Uploads s (uploadOf [note]) [⟨some "note", none, "first".toUTF8.toList⟩] :=
    ⟨rfl, by decide +kernel, "B", by decide +kernel, by decide +kernel⟩
  have hfirst : FirstFile
      [⟨some "note", none, "first".toUTF8.toList⟩,
        ⟨some "file", some "tool.py", "x = 1".toUTF8.toList⟩,
        ⟨some "file", some "other.txt", "y = 2".toUTF8.toList⟩]
      ⟨some "file", some "tool.py", "x = 1".toUTF8.toList⟩ :=
    ⟨[⟨some "note", none, "first".toUTF8.toList⟩], _, rfl, rfl, by simp⟩
  obtain ⟨hanswer, hsame⟩ := (respond_upload hthree).1 _ hfirst
  exact ⟨hanswer, hsame _ _ htool ⟨[], [], rfl, rfl, by simp⟩,
    (respond_upload hnote).2.mpr (by simp)⟩

end CodeAppraisal.Service
