import CodeAppraisal.Quantity
import CodeAppraisal.Parsing.SourceModule
import CodeAppraisal.Text.Blank

/-!
Counts of lines. Every physical line is code, blank, a comment, or part of a text that stands as a
statement of its own over several lines.
-/
namespace CodeAppraisal.Metrics

open CodeAppraisal.Parsing

structure LineCounts where
  linesOfCode : Nat
  logicalLines : Nat
  sourceLines : Nat
  comments : Nat
  singleComments : Nat
  multi : Nat
  blank : Nat
  deriving DecidableEq, Repr, Inhabited

namespace LineCounts

variable {α : Type} [Quantity α]

def commentRatio (c : LineCounts) : α :=
  if c.linesOfCode > 0 then Quantity.ofNat c.comments / Quantity.ofNat c.linesOfCode else 0.0

def commentPercentage (c : LineCounts) : α :=
  if c.sourceLines = 0 then 0.0
  else Quantity.ofNat (c.comments + c.multi) / Quantity.ofNat c.sourceLines * 100.0

end LineCounts

def isLogicalLine (kind : String) : Bool :=
  kind.endsWith "_statement" ||
    ["function_definition", "class_definition", "elif_clause", "else_clause", "except_clause",
      "except_group_clause", "finally_clause", "case_clause"].contains kind

def isMultilineText (t : SyntaxTree) : Bool :=
  t.kind == "expression_statement" &&
    match t.namedChildren with
    | [c] => (c.kind == "string" || c.kind == "concatenated_string") && t.stop.row > t.start.row
    | _ => false

inductive LineKind where
  | text
  | blank
  | comment
  | code
  deriving DecidableEq, Repr

def LineKind.ofLine (line : List Char) : LineKind :=
  match Text.trim line with
  | [] => .blank
  | c :: _ => if c = '#' then .comment else .code

def lineKinds (spans : List (Nat × Nat)) (lines : List (List Char)) : List LineKind :=
  lines.zipIdx.map fun (line, row) =>
    if spans.any fun (first, last) => first ≤ row && row ≤ last then .text
    else LineKind.ofLine line

def countLines (lines : List (List Char)) (nodes : List SyntaxTree) : LineCounts :=
  let spans := (nodes.filter isMultilineText).map fun t => (t.start.row, t.stop.row)
  let kinds := lineKinds spans lines
  let multi := kinds.count .text
  let blank := kinds.count .blank
  let singleComments := kinds.count .comment
  { linesOfCode := lines.length
    logicalLines := nodes.countP fun t => t.kind != "comment" && isLogicalLine t.kind
    sourceLines := lines.length - (blank + singleComments + multi)
    comments := ((nodes.filter (·.kind == "comment")).map (·.start.row)).eraseDups.length
    singleComments, multi, blank }

def lineCounts (m : SourceModule) : LineCounts :=
  countLines (Text.lines m.source.chars.toList) m.root.walk

end CodeAppraisal.Metrics
