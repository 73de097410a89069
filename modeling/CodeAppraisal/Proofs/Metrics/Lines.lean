import CodeAppraisal.Metrics.Lines
import Mathlib

/-!
This module shows that the counts of lines count every line of a text once: each kind of line has
rows of its own, and all rows together are those of the text.
-/
namespace CodeAppraisal.Metrics

open CodeAppraisal.Parsing

def textRows (spans : List (Nat × Nat)) : Finset Nat :=
  (spans.flatMap fun (first, last) => List.range' first (last + 1 - first)).toFinset

theorem mem_textRows {spans : List (Nat × Nat)} {row : Nat} :
    row ∈ textRows spans ↔ (spans.any fun (first, last) => first ≤ row && row ≤ last) = true := by
  simp only [textRows, List.mem_toFinset, List.mem_flatMap, List.mem_range'_1, List.any_eq_true,
    Bool.and_eq_true, decide_eq_true_eq]
  constructor
  . rintro ⟨span, hspan, hfirst, hlast⟩
    exact ⟨span, hspan, hfirst, by omega⟩
  . rintro ⟨span, hspan, hfirst, hlast⟩
    exact ⟨span, hspan, hfirst, by omega⟩

def rowsOf (spans : List (Nat × Nat)) (lines : List (List Char)) : LineKind → Finset Nat
  | .text => {row ∈ textRows spans | row < lines.length}
  | kind => {row ∈ Finset.range lines.length |
      row ∉ textRows spans ∧ LineKind.ofLine (lines.getD row []) = kind}

theorem LineKind.ofLine_ne_text (line : List Char) : LineKind.ofLine line ≠ .text := by
  unfold ofLine
  split
  . simp
  . split <;> simp

section Rows

variable {spans : List (Nat × Nat)} {lines : List (List Char)} {row : Nat} {kind : LineKind}

theorem getElem?_lineKinds : (lineKinds spans lines)[row]? = some kind ↔
    row < lines.length ∧
      (if row ∈ textRows spans then .text else LineKind.ofLine (lines.getD row [])) = kind := by
  simp only [lineKinds, mem_textRows, List.getElem?_map, List.getElem?_zipIdx, Option.map_map]
  cases hline : lines[row]? with
  | none =>
    rw [List.getElem?_eq_none_iff] at hline
    simp [hline]
  | some line =>
    obtain ⟨hrow, rfl⟩ := List.getElem?_eq_some_iff.mp hline
    simp [hrow]

theorem mem_rowsOf : row ∈ rowsOf spans lines kind ↔ (lineKinds spans lines)[row]? = some kind := by
  rw [getElem?_lineKinds]
  cases kind with
  | text =>
    simp only [rowsOf, Finset.mem_filter]
    split
    . next htext => simp [htext]
    . next htext => simp [htext, LineKind.ofLine_ne_text]
  | blank | comment | code =>
    simp only [rowsOf, Finset.mem_filter, Finset.mem_range]
    split
    . next htext => simp [htext]
    . next htext => simp [htext]

end Rows

section Rows

variable {β : Type}

theorem countP_eq_card_rows (p : β → Bool) (xs : List β) :
    xs.countP p = {row ∈ Finset.range xs.length | xs[row]?.any p}.card := by
  rw [← Nat.count_eq_card_filter_range]
  induction xs with
  | nil => rfl
  | cons x xs ih =>
    rw [List.length_cons, Nat.count_succ', List.countP_cons, ih]
    simp

theorem length_eraseDups_eq_card {β : Type} [BEq β] [LawfulBEq β] [DecidableEq β] (xs : List β) :
    xs.eraseDups.length = xs.toFinset.card := by
  match xs with
  | [] => rfl
  | x :: xs =>
    have hsplit : (x :: xs).toFinset = insert x (xs.filter fun y => !y == x).toFinset := by
      ext y
      by_cases hy : y = x <;> simp [hy]
    rw [List.eraseDups_cons, List.length_cons, length_eraseDups_eq_card, hsplit,
      Finset.card_insert_of_notMem (by simp)]
termination_by xs.length
decreasing_by exact Nat.lt_succ_of_le (List.length_filter_le _ _)

end Rows

theorem count_lineKinds (spans : List (Nat × Nat)) (lines : List (List Char)) (kind : LineKind) :
    (lineKinds spans lines).count kind = (rowsOf spans lines kind).card := by
  rw [List.count, countP_eq_card_rows]
  congr 1
  ext row
  rw [Finset.mem_filter, Finset.mem_range, mem_rowsOf, Option.any_eq_true]
  constructor
  . rintro ⟨_, kind', hrow, heq⟩
    rw [hrow, beq_iff_eq.mp heq]
  . intro hrow
    exact ⟨(List.getElem?_eq_some_iff.mp hrow).1, kind, hrow, beq_self_eq_true kind⟩

theorem length_eq_count_add (kinds : List LineKind) :
    kinds.length = kinds.count .code + kinds.count .blank + kinds.count .comment +
      kinds.count .text := by
  induction kinds with
  | nil => rfl
  | cons kind kinds ih =>
    rw [List.length_cons, ih]
    cases kind <;> simp <;> omega

structure LineCounts.Partitions (c : LineCounts) (rows : LineKind → Finset Nat) : Prop where
  sourceLines_eq : c.sourceLines = (rows .code).card
  blank_eq : c.blank = (rows .blank).card
  singleComments_eq : c.singleComments = (rows .comment).card
  multi_eq : c.multi = (rows .text).card
  disjoint : ∀ kind kind', kind ≠ kind' → Disjoint (rows kind) (rows kind')
  covers : ∀ row, row < c.linesOfCode ↔ ∃ kind, row ∈ rows kind
  le_linesOfCode : c.blank + c.singleComments + c.multi ≤ c.linesOfCode
  linesOfCode_eq : c.linesOfCode = c.sourceLines + c.blank + c.singleComments + c.multi

def textSpans (nodes : List SyntaxTree) : List (Nat × Nat) :=
  (nodes.filter isMultilineText).map fun t => (t.start.row, t.stop.row)

theorem countLines_partitions (lines : List (List Char)) (nodes : List SyntaxTree) :
    (countLines lines nodes).Partitions (rowsOf (textSpans nodes) lines) := by
  have hcount := count_lineKinds (textSpans nodes) lines
  have hlength : (lineKinds (textSpans nodes) lines).length = lines.length := by simp [lineKinds]
  have hsum := length_eq_count_add (lineKinds (textSpans nodes) lines)
  simp only [hcount, hlength] at hsum
  have hblank : (countLines lines nodes).blank = (rowsOf (textSpans nodes) lines .blank).card :=
    hcount .blank
  have hcomment : (countLines lines nodes).singleComments =
      (rowsOf (textSpans nodes) lines .comment).card := hcount .comment
  have hmulti : (countLines lines nodes).multi = (rowsOf (textSpans nodes) lines .text).card :=
    hcount .text
  have hlines : (countLines lines nodes).linesOfCode = lines.length := rfl
  have hsource : (countLines lines nodes).sourceLines = lines.length -
      ((countLines lines nodes).blank + (countLines lines nodes).singleComments +
        (countLines lines nodes).multi) := rfl
  constructor
  case sourceLines_eq => omega
  case blank_eq => exact hblank
  case singleComments_eq => exact hcomment
  case multi_eq => exact hmulti
  case disjoint =>
    intro kind kind' hne
    rw [Finset.disjoint_left]
    intro row hrow hrow'
    rw [mem_rowsOf] at hrow hrow'
    rw [hrow] at hrow'
    exact hne (Option.some.inj hrow')
  case covers =>
    intro row
    simp only [mem_rowsOf, hlines, ← hlength, List.getElem?_eq_some_iff]
    constructor
    . intro hrow
      exact ⟨_, hrow, rfl⟩
    . rintro ⟨kind, hrow, _⟩
      exact hrow
  case le_linesOfCode => omega
  case linesOfCode_eq => omega

theorem lineCounts_partitions (m : SourceModule) :
    (lineCounts m).Partitions
      (rowsOf (textSpans m.root.walk) (Text.lines m.source.chars.toList)) :=
  countLines_partitions _ _

end CodeAppraisal.Metrics
