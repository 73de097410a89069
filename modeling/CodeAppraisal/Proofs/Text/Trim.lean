import CodeAppraisal.Text.Blank
import Mathlib

/-!
This module says what is left of a text without the white space around it, and that there is just
one such rest.
-/
namespace CodeAppraisal.Text

variable {s t : List Char}

structure Trimmed (s t : List Char) : Prop where
  around : ∃ before after, s = before ++ t ++ after ∧ (∀ c ∈ before, isBlank c = true) ∧
    ∀ c ∈ after, isBlank c = true
  head : ∀ c ∈ t.head?, isBlank c = false
  last : ∀ c ∈ t.getLast?, isBlank c = false

theorem trimEnd_eq_rdropWhile (s : List Char) : trimEnd s = s.rdropWhile isBlank := rfl

theorem trimEnd_of_last (h : ∀ c ∈ t.getLast?, isBlank c = false) {after : List Char}
    (hafter : ∀ c ∈ after, isBlank c = true) : trimEnd (t ++ after) = t := by
  have hdrop : (t ++ after).reverse.dropWhile isBlank = t.reverse := by
    rw [List.reverse_append, List.dropWhile_append_of_pos (by simpa using hafter)]
    cases hreverse : t.reverse with
    | nil => rfl
    | cons c rest =>
      have hc : isBlank c = false := h c (by simp [List.getLast?_eq_head?_reverse, hreverse])
      rw [List.dropWhile_cons_of_neg (by simp [hc])]
  rw [trimEnd, hdrop, List.reverse_reverse]

theorem Trimmed.trim_eq (h : Trimmed s t) : trim s = t := by
  obtain ⟨before, after, rfl, hbefore, hafter⟩ := h.around
  have hstart : trimStart (before ++ t ++ after) = (t ++ after).dropWhile isBlank := by
    rw [trimStart, List.append_assoc, List.dropWhile_append_of_pos hbefore]
  rw [trim, hstart]
  cases t with
  | nil =>
    have hnone : after.dropWhile isBlank = [] := by simpa using hafter
    rw [List.nil_append, hnone]
    rfl
  | cons c rest =>
    have hc : isBlank c = false := h.head c rfl
    rw [List.cons_append, List.dropWhile_cons_of_neg (by simp [hc]), ← List.cons_append]
    exact trimEnd_of_last h.last hafter

theorem trimmed_trim (s : List Char) : Trimmed s (trim s) := by
  constructor
  case around =>
    refine ⟨s.takeWhile isBlank, (trimStart s).rtakeWhile isBlank, ?_, ?_, ?_⟩
    . rw [List.append_assoc, trim, trimEnd_eq_rdropWhile, List.rdropWhile_append_rtakeWhile,
        trimStart, List.takeWhile_append_dropWhile]
    . exact fun c => List.mem_takeWhile_imp
    . exact fun c => List.mem_rtakeWhile_imp
  case head =>
    -- what is taken off the end leaves the head as it was, if it leaves one
    intro c hc
    obtain ⟨after, hafter⟩ := List.rdropWhile_prefix isBlank (trimStart s)
    have hstart : (s.dropWhile isBlank).head? = some c := by
      rw [← trimStart, ← hafter]
      exact List.mem_head?_append_of_mem_head? hc
    simpa [hstart] using List.head?_dropWhile_not isBlank s
  case last =>
    intro c hc
    rw [trim, trimEnd_eq_rdropWhile] at hc
    obtain ⟨hne, rfl⟩ := List.mem_getLast?_eq_getLast hc
    simpa using List.rdropWhile_last_not isBlank (trimStart s) hne

theorem trimmed_iff : Trimmed s t ↔ trim s = t := by
  constructor
  . exact Trimmed.trim_eq
  . intro h
    rw [← h]
    exact trimmed_trim s

end CodeAppraisal.Text
