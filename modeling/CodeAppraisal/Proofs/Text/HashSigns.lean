import CodeAppraisal.Proofs.Text.Words
import CodeAppraisal.Text.Pattern
import Mathlib

/-!
This module is about hash signs in a text. What a line has from its first one on is one comment, so
there are as many comments as there are lines with a hash sign.
-/
namespace CodeAppraisal.Text

/-- A hash sign and what follows it on the line: `#.*`. -/
def Pattern.comment : Pattern := seq (char (· == '#')) (many 0 (· != '\n'))

section Lines

variable {s : List Char}

theorem splitLines_eq_splitOn (s : List Char) : splitLines s = s.splitOn '\n' := by
  have hgo : ∀ line, splitLines.go line s = (s.splitOn '\n').modifyHead (line.reverse ++ ·) := by
    induction s with
    | nil =>
      intro line
      simp [splitLines.go]
    | cons c s ih =>
      intro line
      rw [splitLines.go, ih, ih, List.splitOn_cons_eq_if_modifyHead]
      by_cases hc : c = '\n'
      . cases h : s.splitOn '\n' <;> simp [hc]
      . cases h : s.splitOn '\n' <;> simp [hc]
  rw [splitLines, hgo]
  cases h : s.splitOn '\n' <;> simp

theorem splitOn_dropLine (s : List Char) :
    (dropLine s).splitOn '\n' = [] :: (s.splitOn '\n').tail := by
  induction s with
  | nil => simp [dropLine]
  | cons c s ih =>
    rw [List.splitOn_cons_eq_if_modifyHead]
    by_cases hc : c = '\n'
    . simp [dropLine, hc, List.splitOn_cons_eq_if_modifyHead]
    . rw [if_neg (by simpa using hc), List.tail_modifyHead, ← ih]
      simp [dropLine, hc]

theorem length_dropLine_le (s : List Char) : (dropLine s).length ≤ s.length :=
  (List.dropWhile_suffix _).length_le

end Lines

theorem countComments_eq_countP (s : List Char) :
    countComments s = (s.splitOn '\n').countP (·.contains '#') := by
  fun_induction countComments s with
  | case1 => simp
  | case2 rest ih =>
    rw [ih, splitOn_dropLine, List.splitOn_cons_eq_if_modifyHead]
    obtain ⟨line, lines, h⟩ := List.exists_cons_of_ne_nil (List.splitOn_ne_nil '\n' rest)
    simp [h, Nat.add_comm]
  | case3 c rest hc ih =>
    rw [ih, List.splitOn_cons_eq_if_modifyHead]
    obtain ⟨line, lines, h⟩ := List.exists_cons_of_ne_nil (List.splitOn_ne_nil '\n' rest)
    by_cases hfeed : c = '\n'
    . simp [hfeed]
    . simp [h, hfeed, List.countP_cons, Ne.symm hc]

theorem countComments_le_length_lines (s : List Char) : countComments s ≤ (lines s).length := by
  rw [countComments_eq_countP, lines, splitLines_eq_splitOn]
  obtain ⟨parts, last, h⟩ : ∃ parts last, s.splitOn '\n' = parts ++ [last] :=
    ⟨_, _, (List.dropLast_concat_getLast (List.splitOn_ne_nil '\n' s)).symm⟩
  have hparts : parts.countP (·.contains '#') ≤ parts.length := List.countP_le_length
  rw [h, List.countP_append]
  -- behind the last line feed there is a line only if there is something, maybe with a comment
  cases last with
  | nil => simpa using hparts
  | cons c last =>
    have hlast : [c :: last].countP (·.contains '#') ≤ 1 := List.countP_le_length
    simp only [List.dropLast_concat, List.getLast?_concat, List.length_append, List.length_map,
      List.length_singleton]
    omega

theorem length_find_comment (before s : List Char) :
    (Pattern.comment.find before s).length = countComments s := by
  fun_induction countComments s generalizing before with
  | case1 => rw [Pattern.find_nil, List.length_nil]
  | case2 rest ih =>
    have hends : (Pattern.comment.ends before ('#' :: rest)).head? =
        some ('#' :: rest.takeWhile (· != '\n'), dropLine rest) := by
      have hmany := Pattern.head?_endsOfMany (· != '\n') rest
      rw [Pattern.comment, Pattern.ends_char_seq]
      simp only [beq_self_eq_true, if_true, List.head?_map, Pattern.ends, hmany]
      rfl
    rw [Pattern.find_cons_of_head? hends (length_dropLine_le rest), List.length_cons, ih,
      Nat.add_comm]
  | case3 c rest hc ih =>
    have hends : Pattern.comment.ends before (c :: rest) = [] := by
      simp [Pattern.comment, Pattern.ends_char_seq, hc]
    rw [Pattern.find_cons_of_ends_eq_nil hends, ih]

end CodeAppraisal.Text
