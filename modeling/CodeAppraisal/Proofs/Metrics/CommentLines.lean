import CodeAppraisal.Features
import CodeAppraisal.Proofs.ExactQuantity
import CodeAppraisal.Proofs.Metrics.Lines
import CodeAppraisal.Proofs.Parsing.Walk
import CodeAppraisal.Proofs.Text.HashSigns

/-!
This module compares the three counts of comments: the lines with a comment in the tree, the lines
with nothing but a comment, which are told by how they begin, and the comments found in the text
alone.
-/
namespace CodeAppraisal.Metrics

open CodeAppraisal.Parsing

def commentRows (root : SyntaxTree) : Finset Nat :=
  ((root.nodes.filter (·.kind == "comment")).map (·.start.row)).toFinset

theorem mem_commentRows {root : SyntaxTree} {row : Nat} :
    row ∈ commentRows root ↔ ∃ t ∈ root.walk, t.kind = "comment" ∧ t.start.row = row := by
  simp [commentRows, (SyntaxTree.walk_perm root).mem_iff, and_assoc]

theorem comments_eq_card (m : SourceModule) :
    (lineCounts m).comments = (commentRows m.root).card := by
  have hperm := ((SyntaxTree.walk_perm m.root).filter (·.kind == "comment")).map (·.start.row)
  rw [commentRows, ← List.toFinset_eq_of_perm _ _ hperm]
  exact length_eraseDups_eq_card _

section HashSigns

def StartAtHash (code : String) (root : SyntaxTree) : Prop :=
  ∀ t ∈ root.walk, t.kind = "comment" → ∃ before after,
    (code.toList.splitOn '\n')[t.start.row]? = some (before ++ '#' :: after) ∧
      addUp (before.map Char.utf8Size) = t.start.column

variable {code : String} {root : SyntaxTree}

theorem comments_le_countComments (h : StartAtHash code root) :
    (lineCounts ⟨Source.ofString code, root⟩).comments ≤ Text.countComments code.toList := by
  rw [comments_eq_card, Text.countComments_eq_countP, countP_eq_card_rows]
  apply Finset.card_le_card
  intro row hrow
  obtain ⟨t, ht, hkind, rfl⟩ := mem_commentRows.mp hrow
  obtain ⟨before, after, hline, _⟩ := h t ht hkind
  rw [Finset.mem_filter, Finset.mem_range]
  exact ⟨(List.getElem?_eq_some_iff.mp hline).1, by simp [hline]⟩

variable (K : Type) [Field K] [LinearOrder K] [ElementaryFunctions K]

structure CommentsBracketed (code : String) : Prop where
  numComments_eq_length : (FeatureVector.ofString code : FeatureVector K).numComments =
    (Text.Pattern.comment.find [] code.toList).length
  numComments_eq_countP : (FeatureVector.ofString code : FeatureVector K).numComments =
    (code.toList.splitOn '\n').countP (·.contains '#')
  comments_le : ∀ root, StartAtHash code root →
    (lineCounts ⟨Source.ofString code, root⟩).comments ≤
      (FeatureVector.ofString code : FeatureVector K).numComments
  le_linesOfCode : ∀ root, (FeatureVector.ofString code : FeatureVector K).numComments ≤
    (lineCounts ⟨Source.ofString code, root⟩).linesOfCode
  commentRatio_bounds : ∀ root, StartAtHash code root →
    0 ≤ ((lineCounts ⟨Source.ofString code, root⟩).commentRatio : K) ∧
      ((lineCounts ⟨Source.ofString code, root⟩).commentRatio : K) ≤ 1
  pos_of_commentRatio_pos : ∀ root, StartAtHash code root →
    0 < ((lineCounts ⟨Source.ofString code, root⟩).commentRatio : K) →
      0 < (FeatureVector.ofString code : FeatureVector K).numComments

theorem numComments_eq (code : String) :
    (FeatureVector.ofString code : FeatureVector K).numComments = Text.countComments code.toList :=
  rfl

theorem linesOfCode_eq (code : String) (root : SyntaxTree) :
    (lineCounts ⟨Source.ofString code, root⟩).linesOfCode = (Text.lines code.toList).length := by
  simp [lineCounts, countLines, Source.ofString]

variable [IsStrictOrderedRing K]

theorem commentRatio_eq (c : LineCounts) :
    (c.commentRatio : K) = (c.comments : K) / c.linesOfCode := by
  unfold LineCounts.commentRatio
  split
  . rfl
  . next h =>
    have hzero : c.linesOfCode = 0 := by omega
    rw [hzero, Nat.cast_zero, div_zero]
    norm_num

theorem comments_bracketed (code : String) : CommentsBracketed K code := by
  have hlines : ∀ root, Text.countComments code.toList ≤
      (lineCounts ⟨Source.ofString code, root⟩).linesOfCode := by
    intro root
    rw [linesOfCode_eq]
    exact Text.countComments_le_length_lines _
  constructor
  case numComments_eq_length => rw [numComments_eq, Text.length_find_comment]
  case numComments_eq_countP => rw [numComments_eq, Text.countComments_eq_countP]
  case comments_le =>
    intro root h
    exact comments_le_countComments h
  case le_linesOfCode =>
    intro root
    exact hlines root
  case commentRatio_bounds =>
    intro root h
    have hle := (comments_le_countComments h).trans (hlines root)
    rw [commentRatio_eq]
    refine ⟨by positivity, div_le_one_of_le₀ ?_ (by positivity)⟩
    exact_mod_cast hle
  case pos_of_commentRatio_pos =>
    intro root h hpos
    have hle := comments_le_countComments h
    rw [commentRatio_eq] at hpos
    rw [numComments_eq]
    by_contra hnone
    have hzero : (lineCounts ⟨Source.ofString code, root⟩).comments = 0 := by omega
    simp [hzero] at hpos

/-- A node of a text in which each character is one byte. A place in it is an index, a row and a
column. -/
def nodeAt (kind : String) (start stop : Nat × Nat × Nat) (children : List SyntaxTree) :
    SyntaxTree :=
  .node { (default : NodeInfo) with kind, named := true, start := place start, stop := place stop }
    children
where
  place : Nat × Nat × Nat → Position := fun (index, row, column) => ⟨index, index, row, column⟩

def twoComments : SyntaxTree :=
  nodeAt "module" (0, 0, 0) (18, 1, 3)
    [nodeAt "expression_statement" (0, 0, 0) (5, 0, 5) [],
      nodeAt "comment" (7, 0, 7) (14, 0, 14) [], nodeAt "comment" (15, 1, 0) (18, 1, 3) []]

theorem comments_bracketed_two : StartAtHash "x = 1  # a # b\n# c" twoComments ∧
    let c := lineCounts ⟨Source.ofString "x = 1  # a # b\n# c", twoComments⟩
    let features : FeatureVector ℝ := .ofString "x = 1  # a # b\n# c"
    c.comments = 2 ∧ c.comments ≤ features.numComments ∧ features.numComments ≤ c.linesOfCode ∧
      (c.commentRatio : ℝ) ≤ 1 := by
  have hsplit : "x = 1  # a # b\n# c".toList.splitOn '\n' =
      ["x = 1  ".toList ++ '#' :: " a # b".toList, [] ++ '#' :: " c".toList] := by decide +kernel
  have hstart : StartAtHash "x = 1  # a # b\n# c" twoComments := by
    intro t ht hkind
    rw [(SyntaxTree.walk_perm _).mem_iff] at ht
    rw [hsplit]
    have hcases : t = nodeAt "comment" (7, 0, 7) (14, 0, 14) [] ∨
        t = nodeAt "comment" (15, 1, 0) (18, 1, 3) [] := by
      simp [twoComments, nodeAt, SyntaxTree.nodes, SyntaxTree.nodesBelow] at ht
      obtain rfl | rfl | rfl | rfl := ht <;> simp_all [SyntaxTree.kind, SyntaxTree.info, nodeAt]
    obtain rfl | rfl := hcases
    . exact ⟨_, _, rfl, by decide +kernel⟩
    . exact ⟨_, _, rfl, by decide +kernel⟩
  have h := comments_bracketed ℝ "x = 1  # a # b\n# c"
  refine ⟨hstart, ?_, h.comments_le _ hstart, h.le_linesOfCode _,
    (h.commentRatio_bounds _ hstart).2⟩
  rw [comments_eq_card]
  decide +kernel

end HashSigns

section Strings

def hashRows (lines : List (List Char)) : Finset Nat :=
  {row ∈ Finset.range lines.length | LineKind.ofLine (lines.getD row []) = .comment}

def stringRows (root : SyntaxTree) : Finset Nat :=
  textRows ((root.nodes.filter (·.kind == "string")).map fun t => (t.start.row + 1, t.stop.row))

def statementRows (root : SyntaxTree) : Finset Nat := textRows (textSpans root.nodes)

def commentOnlyRows (m : SourceModule) : Finset Nat :=
  rowsOf (textSpans m.root.walk) (Text.lines m.source.chars.toList) .comment

/-- The rows in strings that are no statements by themselves, with a hash sign in front but without
a comment. -/
def misread (m : SourceModule) : Finset Nat :=
  (hashRows (Text.lines m.source.chars.toList) ∩ stringRows m.root) \
    (statementRows m.root ∪ commentRows m.root)

def ReadsHashSigns (m : SourceModule) : Prop :=
  hashRows (Text.lines m.source.chars.toList) ⊆ commentRows m.root ∪ stringRows m.root

variable {m : SourceModule}

theorem textRows_eq_of_perm {spans spans' : List (Nat × Nat)} (h : spans.Perm spans') :
    textRows spans = textRows spans' :=
  List.toFinset_eq_of_perm _ _ (h.flatMap_right _)

theorem commentOnlyRows_eq (m : SourceModule) : commentOnlyRows m =
    hashRows (Text.lines m.source.chars.toList) \ statementRows m.root := by
  have hspans : textRows (textSpans m.root.walk) = statementRows m.root :=
    textRows_eq_of_perm (((SyntaxTree.walk_perm m.root).filter _).map _)
  rw [← hspans]
  ext row
  simp only [commentOnlyRows, rowsOf, hashRows, Finset.mem_filter, Finset.mem_sdiff]
  tauto

theorem singleComments_eq_card (m : SourceModule) :
    (lineCounts m).singleComments = (commentOnlyRows m).card :=
  (countLines_partitions _ _).singleComments_eq

structure CommentedBesidesMisread (m : SourceModule) : Prop where
  singleComments_eq : (lineCounts m).singleComments = (commentOnlyRows m).card
  comments_eq : (lineCounts m).comments = (commentRows m.root).card
  sdiff_eq : commentOnlyRows m \ commentRows m.root = misread m
  singleComments_le : (lineCounts m).singleComments ≤ (lineCounts m).comments + (misread m).card
  of_subset : stringRows m.root ⊆ statementRows m.root →
    commentOnlyRows m ⊆ commentRows m.root ∧
      (lineCounts m).singleComments ≤ (lineCounts m).comments

theorem singleComments_besides_misread (h : ReadsHashSigns m) : CommentedBesidesMisread m := by
  have hsingle := singleComments_eq_card m
  have hcomments := comments_eq_card m
  have hsdiff : commentOnlyRows m \ commentRows m.root = misread m := by
    rw [commentOnlyRows_eq]
    ext row
    have hrow := @h row
    simp only [misread, Finset.mem_sdiff, Finset.mem_inter, Finset.mem_union] at hrow ⊢
    tauto
  have hle : (lineCounts m).singleComments ≤ (lineCounts m).comments + (misread m).card := by
    rw [hsingle, hcomments, ← hsdiff, Nat.add_comm]
    exact Finset.card_le_card_sdiff_add_card
  constructor
  case singleComments_eq => exact hsingle
  case comments_eq => exact hcomments
  case sdiff_eq => exact hsdiff
  case singleComments_le => exact hle
  case of_subset =>
    intro hstrings
    have hnone : misread m = ∅ := by
      apply Finset.sdiff_eq_empty_iff_subset.mpr
      exact (Finset.inter_subset_right.trans hstrings).trans Finset.subset_union_left
    rw [hnone] at hsdiff hle
    exact ⟨Finset.sdiff_eq_empty_iff_subset.mp hsdiff, by simpa using hle⟩

def standingText : SourceModule where
  source := Source.ofString "\"\"\"\n# a\n\"\"\"\n# b\n"
  root := nodeAt "module" (0, 0, 0) (16, 4, 0)
    [nodeAt "expression_statement" (0, 0, 0) (11, 2, 3) [nodeAt "string" (0, 0, 0) (11, 2, 3) []],
      nodeAt "comment" (12, 3, 0) (15, 3, 3) []]

theorem singleComments_besides_misread_standingText : ReadsHashSigns standingText ∧
    stringRows standingText.root = {1, 2} ∧ (lineCounts standingText).comments = 1 ∧
      (lineCounts standingText).singleComments ≤ (lineCounts standingText).comments := by
  have hreads : ReadsHashSigns standingText := by
    unfold ReadsHashSigns
    decide +kernel
  have h := singleComments_besides_misread hreads
  refine ⟨hreads, by decide +kernel, ?_, (h.of_subset (by decide +kernel)).2⟩
  rw [h.comments_eq]
  decide +kernel

def assignedText : SourceModule where
  source := Source.ofString "x = \"\"\"\n# a\n\"\"\"\n"
  root := nodeAt "module" (0, 0, 0) (16, 3, 0)
    [nodeAt "expression_statement" (0, 0, 0) (15, 2, 3)
      [nodeAt "assignment" (0, 0, 0) (15, 2, 3)
        [part "left" (nodeAt "identifier" (0, 0, 0) (1, 0, 1) []), sign,
          part "right" (nodeAt "string" (4, 0, 4) (15, 2, 3)
            [nodeAt "string_start" (4, 0, 4) (7, 0, 7) [],
              nodeAt "string_content" (7, 0, 7) (12, 2, 0) [],
              nodeAt "string_end" (12, 2, 0) (15, 2, 3) []])]]]
where
  part (field : String) (t : SyntaxTree) : SyntaxTree :=
    .node { t.info with field := some field } t.children
  sign : SyntaxTree :=
    .node { (nodeAt "=" (2, 0, 2) (3, 0, 3) []).info with named := false } []

/-- A line of an assigned text is counted as nothing but a comment, though there is none. -/
theorem comments_lt_singleComments_assignedText : ReadsHashSigns assignedText ∧
    commentOnlyRows assignedText = {1} ∧ commentRows assignedText.root = ∅ ∧
      (lineCounts assignedText).singleComments = 1 ∧ (lineCounts assignedText).comments = 0 := by
  have hrows : commentOnlyRows assignedText = {1} := by
    rw [commentOnlyRows_eq]
    decide +kernel
  have hcomments : commentRows assignedText.root = ∅ := by decide +kernel
  refine ⟨?_, hrows, hcomments, ?_, ?_⟩
  . unfold ReadsHashSigns
    decide +kernel
  . rw [singleComments_eq_card, hrows, Finset.card_singleton]
  . rw [comments_eq_card, hcomments, Finset.card_empty]

end Strings

end CodeAppraisal.Metrics
