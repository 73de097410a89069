import CodeAppraisal.Classifier.Vectorizer
import CodeAppraisal.Proofs.Text.Words

/-!
This module shows what the terms of a document are: every window, as long as terms may be, over its
words of two characters and more, as a search finds them.
-/
namespace CodeAppraisal.Classifier

open Text

theorem tokens_eq_find (document : String) : tokens document =
    (Pattern.token.find [] (lower document.toList)).map fun o => String.ofList o.taken := by
  unfold tokens
  rw [Pattern.token_takesWords.find_eq (by simp), ← map_taken_placedWords [], List.filter_map,
    List.map_map]
  rfl

structure Window where
  size : Nat
  start : Nat
  deriving DecidableEq, Repr

namespace Window

def Before (w w' : Window) : Prop := w.size < w'.size ∨ w.size = w'.size ∧ w.start < w'.start

def term (words : List String) (w : Window) : String :=
  String.intercalate " " ((words.drop w.start).take w.size)

end Window

def windows (lengths : RunLengths) (count : Nat) : List Window :=
  (List.range' lengths.shortest (min lengths.longest count + 1 - lengths.shortest)).flatMap
    fun size => (List.range (count + 1 - size)).map (Window.mk size)

example : windows (.between 0 2) 3 = [⟨1, 0⟩, ⟨1, 1⟩, ⟨1, 2⟩, ⟨2, 0⟩, ⟨2, 1⟩] := by decide

theorem termsOf_eq (lengths : RunLengths) (document : String) : termsOf lengths document =
    (windows lengths (tokens document).length).map (Window.term (tokens document)) := by
  unfold termsOf windows
  dsimp only
  rw [List.map_flatMap]
  congr
  funext size
  rw [List.map_map]
  rfl

variable {lengths : RunLengths} {count : Nat}

theorem mem_windows {w : Window} : w ∈ windows lengths count ↔
    lengths.shortest ≤ w.size ∧ w.size ≤ lengths.longest ∧ w.start + w.size ≤ count := by
  obtain ⟨size, start⟩ := w
  simp only [windows, List.mem_flatMap, List.mem_range'_1, List.mem_map, List.mem_range,
    Window.mk.injEq]
  constructor
  . rintro ⟨n, hn, i, hi, rfl, rfl⟩
    omega
  . intro h
    exact ⟨size, by omega, start, by omega, rfl, rfl⟩

theorem windows_pairwise (lengths : RunLengths) (count : Nat) :
    (windows lengths count).Pairwise Window.Before := by
  apply List.pairwise_flatMap.mpr
  constructor
  . intro size _
    rw [List.pairwise_map]
    apply List.pairwise_lt_range.imp
    intro i j hlt
    right
    exact ⟨rfl, hlt⟩
  . apply (List.pairwise_lt_range' (s := lengths.shortest)).imp
    intro size size' hlt w hw w' hw'
    obtain ⟨i, _, rfl⟩ := List.mem_map.mp hw
    obtain ⟨i', _, rfl⟩ := List.mem_map.mp hw'
    left
    exact hlt

theorem windows_nodup (lengths : RunLengths) (count : Nat) : (windows lengths count).Nodup := by
  apply (windows_pairwise lengths count).imp
  rintro w _ hbefore rfl
  unfold Window.Before at hbefore
  omega

theorem countP_windows (lengths : RunLengths) (count size : Nat) :
    (windows lengths count).countP (·.size = size) =
      if lengths.shortest ≤ size ∧ size ≤ lengths.longest then count + 1 - size else 0 := by
  rw [List.countP_eq_length_filter]
  split
  . next hsize =>
    have hperm : ((windows lengths count).filter (·.size = size)).Perm
        ((List.range (count + 1 - size)).map (Window.mk size)) := by
      apply (List.perm_ext_iff_of_nodup ?_ ?_).mpr
      . intro w
        obtain ⟨n, start⟩ := w
        simp only [List.mem_filter, mem_windows, decide_eq_true_eq, List.mem_map, List.mem_range,
          Window.mk.injEq]
        constructor
        . rintro ⟨hmem, rfl⟩
          exact ⟨start, by omega, rfl, rfl⟩
        . rintro ⟨i, hi, rfl, rfl⟩
          omega
      . exact (windows_nodup lengths count).filter _
      . rw [List.Nodup, List.pairwise_map]
        apply List.nodup_range.imp
        rintro i j hne ⟨⟩
        exact hne rfl
    rw [hperm.length_eq, List.length_map, List.length_range]
  . next hsize =>
    rw [List.length_eq_zero_iff, List.filter_eq_nil_iff]
    intro w hw
    rw [mem_windows] at hw
    simp
    omega

/-- The search finds the runs of two word characters and more that nothing can be added to, from
left to right; the terms are the windows over them, each once. -/
theorem terms_of_document (shortest longest : Nat) (document : String) :
    let text := lower document.toList
    let found := Pattern.token.find [] text
    let words := found.map fun o => String.ofList o.taken
    found.Pairwise Occurrence.Before ∧
      (∀ o, o ∈ found ↔ IsWord text o ∧ 2 ≤ o.taken.length) ∧
      ∃ order : List Window, order.Pairwise Window.Before ∧
        (∀ w, w ∈ order ↔ max shortest 1 ≤ w.size ∧ w.size ≤ max longest (max shortest 1) ∧
          w.start + w.size ≤ words.length) ∧
        (∀ size, order.countP (·.size = size) =
          if max shortest 1 ≤ size ∧ size ≤ max longest (max shortest 1) then
            words.length + 1 - size else 0) ∧
        termsOf (.between shortest longest) document = order.map (Window.term words) := by
  intro text found words
  have hfound : found = (placedWords [] text).filter (2 ≤ ·.taken.length) :=
    Pattern.token_takesWords.find_eq (by simp)
  have hwords : tokens document = words := tokens_eq_find document
  refine ⟨?_, ?_, windows (.between shortest longest) words.length, ?_, ?_, ?_, ?_⟩
  . rw [hfound]
    exact (placedWords_pairwise [] text).filter _
  . intro o
    rw [hfound, List.mem_filter, mem_placedWords_iff, decide_eq_true_eq]
  . exact windows_pairwise _ words.length
  . intro w
    exact mem_windows
  . intro size
    exact countP_windows _ _ size
  . rw [← hwords]
    exact termsOf_eq _ document

end CodeAppraisal.Classifier
