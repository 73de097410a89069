import CodeAppraisal.Json.Writer
import CodeAppraisal.Report.Codec
import CodeAppraisal.Service.Analysis

/-!
Requests and what is answered to them.
-/
namespace CodeAppraisal

structure Service where
  analyzer : Analyzer Float
  maxUploadBytes : Nat
  landingPage : Option ByteArray

namespace Service

inductive Method where
  | get
  | head
  | post
  | options
  | other
  deriving DecidableEq, Repr

def Method.ofString : String → Method
  | "GET" => get
  | "HEAD" => head
  | "POST" => post
  | "OPTIONS" => options
  | _ => other

structure Request where
  method : Method
  target : String
  contentType : Option String
  body : List UInt8
  deriving DecidableEq, Repr

structure Response where
  status : Nat
  contentType : Option String
  body : String
  deriving DecidableEq, Repr

namespace Response

def empty (status : Nat) : Response := ⟨status, none, ""⟩

def html (page : String) : Response := ⟨200, some "text/html; charset=utf-8", page⟩

def json (status : Nat) (value : Json Float) : Response :=
  ⟨status, some "application/json", Json.compact value⟩

end Response

def version : String := "0.1.0"

def plainPage : String :=
  "<h1>pyreview</h1><p>POST Python source to /api/analyze-text or upload a .py file to " ++
    "/api/analyze.</p>"

def page (s : Service) : String := (s.landingPage.bind String.fromUTF8?).getD plainPage

inductive Route where
  | index
  | health
  | upload
  | text
  deriving DecidableEq, Repr

namespace Route

def ofPath? : String → Option Route
  | "/" => some index
  | "/api/health" => some health
  | "/api/analyze" => some upload
  | "/api/analyze-text" => some text
  | _ => none

def isRead : Route → Bool
  | index | health => true
  | upload | text => false

end Route

def pathOf (target : String) : String :=
  String.ofList (target.toList.takeWhile fun c => c ≠ '?' && c ≠ '#')

def reported : Except Refusal (AnalysisReport Float) → Response
  | .ok r => .json 200 r.encode
  | .error refusal => .json refusal.status refusal.encode

def Request.mediaType? (r : Request) : Option MediaType := r.contentType.bind MediaType.ofString?

def respondUpload (s : Service) (r : Request) : Response :=
  match r.mediaType?.bind MediaType.boundary? with
  | some boundary => reported (analyzeForm s.analyzer (.ofBytes s.maxUploadBytes boundary r.body))
  | none =>
    ⟨400, some "text/plain; charset=utf-8",
      "Invalid `boundary` for `multipart/form-data` request"⟩

def serve (s : Service) (r : Request) : Route → Response
  | .index => .html s.page
  | .health => .json 200 (.object [("status", .string "healthy"), ("version", .string version)])
  | .upload => respondUpload s r
  | .text => reported (analyzePayload s.analyzer s.maxUploadBytes r.mediaType? r.body)

def respond (s : Service) (r : Request) : Response :=
  match r.method, Route.ofPath? (pathOf r.target) with
  | .options, _ => .empty 200
  | _, none => .empty 404
  | .head, some route => if route.isRead then { s.serve r route with body := "" } else .empty 405
  | .get, some route => if route.isRead then s.serve r route else .empty 405
  | .post, some route => if route.isRead then .empty 405 else s.serve r route
  | .other, some _ => .empty 405

end Service

end CodeAppraisal
