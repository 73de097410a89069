import CodeAppraisal.Text.Blank
import CodeAppraisal.Text.Word
import Mathlib.Data.List.Basic
import Mathlib.Data.List.TakeWhile
import Mathlib.Order.Nat

/-!
This module says which characters a set of code points has: with its boundaries in order, those in
the ranges that begin at every other boundary and end at the next. So decimal digits are seen to be
word characters range by range.
-/
namespace CodeAppraisal.Text

namespace CodePointSet

def Ordered (s : CodePointSet) : Prop := s.boundaries.toList.Pairwise (· < ·)

def rangesBetween : List Nat → List (Nat × Nat)
  | [] => []
  | [start] => [(start, 0x110000)]
  | start :: stop :: later => (start, stop) :: rangesBetween later

def ranges (s : CodePointSet) : List (Nat × Nat) := rangesBetween s.boundaries.toList

/-- What is left of some ranges when one after the other of the second list takes away those in
front that lie in it. -/
def uncovered (rs rs' : List (Nat × Nat)) : List (Nat × Nat) :=
  rs'.foldl (fun left r' => left.dropWhile fun r => r'.1 ≤ r.1 && r.2 ≤ r'.2) rs

/-- The boundaries in front of one place are at or below `n`, those from another on are above it. -/
structure Narrowed (s : CodePointSet) (n lo hi : Nat) : Prop where
  lo_le_hi : lo ≤ hi
  hi_le_size : hi ≤ s.boundaries.size
  le_of_lt : ∀ i (_ : i < s.boundaries.size), i < lo → s.boundaries[i] ≤ n
  lt_of_le : ∀ i (_ : i < s.boundaries.size), hi ≤ i → n < s.boundaries[i]

variable {s t : CodePointSet} {n lo hi : Nat} {c : Char}

theorem Ordered.le (h : s.Ordered) {i j : Nat} (hij : i ≤ j) (hj : j < s.boundaries.size) :
    s.boundaries[i] ≤ s.boundaries[j] := by
  obtain rfl | hlt := hij.eq_or_lt
  . exact le_refl _
  . exact (List.pairwise_iff_getElem.mp h i j (by simp; omega) (by simpa using hj) hlt).le

theorem Narrowed.step (hs : s.Ordered) (h : s.Narrowed n lo hi) (mid : Nat) (hlo : lo ≤ mid)
    (hhi : mid < hi) : if s.boundaries.getD mid 0 ≤ n then s.Narrowed n (mid + 1) hi
      else s.Narrowed n lo mid := by
  have hmid : mid < s.boundaries.size := hhi.trans_le h.hi_le_size
  have hget : s.boundaries.getD mid 0 = s.boundaries[mid] := by simp [Array.getD, hmid]
  rw [hget]
  split
  . next hn =>
    refine ⟨hhi, h.hi_le_size, ?_, h.lt_of_le⟩
    intro i _ hlt
    exact (hs.le (Nat.le_of_lt_succ hlt) hmid).trans hn
  . next hn =>
    refine ⟨hlo, hmid.le, h.le_of_lt, ?_⟩
    intro i hi hge
    exact (Nat.lt_of_not_le hn).trans_le (hs.le hge hi)

theorem Narrowed.go (hs : s.Ordered) {fuel : Nat} (h : s.Narrowed n lo hi)
    (hfuel : hi ≤ lo + fuel) :
    s.Narrowed n (countUpTo.go s n fuel lo hi) (countUpTo.go s n fuel lo hi) := by
  induction fuel generalizing lo hi with
  | zero =>
    obtain rfl := Nat.le_antisymm h.lo_le_hi hfuel
    exact h
  | succ fuel ih =>
    unfold countUpTo.go
    split
    . next hlt =>
      have hstep := h.step hs ((lo + hi) / 2) (by omega) (by omega)
      dsimp only
      split
      . next hn =>
        rw [if_pos hn] at hstep
        exact ih hstep (by omega)
      . next hn =>
        rw [if_neg hn] at hstep
        exact ih hstep (by omega)
    . next hlt =>
      obtain rfl := Nat.le_antisymm h.lo_le_hi (Nat.le_of_not_lt hlt)
      exact h

theorem narrowed_countUpTo (hs : s.Ordered) (n : Nat) :
    s.Narrowed n (s.countUpTo n) (s.countUpTo n) := by
  apply Narrowed.go hs _ (by omega)
  constructor
  . exact Nat.zero_le _
  . exact Nat.le_refl _
  . intro i _ hlt
    omega
  . intro i hi hge
    omega

theorem countP_eq_zero_of_lt {bs : List Nat} (h : ∀ b ∈ bs, n < b) : bs.countP (· ≤ n) = 0 := by
  rw [List.countP_eq_zero]
  intro b hb
  simpa using h b hb

theorem countUpTo_eq (hs : s.Ordered) (n : Nat) :
    s.countUpTo n = s.boundaries.toList.countP (· ≤ n) := by
  obtain ⟨-, hle, hlow, hhigh⟩ := narrowed_countUpTo hs n
  generalize s.countUpTo n = k at *
  have hfront : (s.boundaries.toList.take k).countP (· ≤ n) = k := by
    rw [List.countP_eq_length.mpr, List.length_take_of_le hle]
    intro b hb
    obtain ⟨i, hi, rfl⟩ := List.mem_take_iff_getElem.mp hb
    rw [Nat.lt_min] at hi
    simpa using hlow i hi.2 hi.1
  have hback : (s.boundaries.toList.drop k).countP (· ≤ n) = 0 := by
    apply countP_eq_zero_of_lt
    intro b hb
    obtain ⟨i, hi, rfl⟩ := List.mem_drop_iff_getElem.mp hb
    simpa [Nat.add_comm k i] using hhigh (i + k) hi (Nat.le_add_left k i)
  conv_rhs => rw [← List.take_append_drop k s.boundaries.toList]
  rw [List.countP_append, hfront, hback]
  rfl

theorem fst_mem_of_mem_rangesBetween {bs : List Nat} {r : Nat × Nat} (h : r ∈ rangesBetween bs) :
    r.1 ∈ bs := by
  fun_induction rangesBetween bs with
  | case1 => cases h
  | case2 start => simp_all
  | case3 start stop later ih =>
    cases List.mem_cons.mp h with
    | inl heq => simp [heq]
    | inr hmem => simp [ih hmem]

theorem odd_countP_iff {bs : List Nat} (h : bs.Pairwise (· < ·)) (hn : n < 0x110000) :
    bs.countP (· ≤ n) % 2 = 1 ↔ ∃ r ∈ rangesBetween bs, r.1 ≤ n ∧ n < r.2 := by
  fun_induction rangesBetween bs with
  | case1 => simp
  | case2 start =>
    by_cases hstart : start ≤ n
    . simp [hstart, hn]
    . simp [hstart]
  | case3 start stop later ih =>
    rw [List.pairwise_cons, List.pairwise_cons] at h
    obtain ⟨hstart, hstop, hlater⟩ := h
    have hlt := hstart stop (by simp)
    rw [List.countP_cons, List.countP_cons]
    by_cases hpassed : stop ≤ n
    . have hfirst : start ≤ n := by omega
      simp only [hfirst, hpassed, decide_true, if_true, Nat.add_assoc, Nat.add_mod_right,
        ih hlater, List.exists_mem_cons_iff, not_lt.mpr hpassed, and_false, false_or]
    . have hnone : ¬ ∃ r ∈ rangesBetween later, r.1 ≤ n ∧ n < r.2 := by
        rintro ⟨r, hr, hle, -⟩
        have := hstop r.1 (fst_mem_of_mem_rangesBetween hr)
        omega
      have hcount : later.countP (· ≤ n) = 0 := by
        apply countP_eq_zero_of_lt
        intro b hb
        have := hstop b hb
        omega
      rw [List.exists_mem_cons_iff, hcount]
      simp only [hpassed, hnone, or_false]
      by_cases hfirst : start ≤ n
      . simp [hfirst, Nat.lt_of_not_le hpassed]
      . simp [hfirst]

theorem contains_iff (h : s.Ordered) :
    s.contains c = true ↔ ∃ r ∈ s.ranges, r.1 ≤ c.toNat ∧ c.toNat < r.2 := by
  have hlast : c.toNat < 0x110000 := by
    have hvalid : c.toNat < 0xd800 ∨ 0xdfff < c.toNat ∧ c.toNat < 0x110000 := c.valid
    omega
  rw [contains, countUpTo_eq h, beq_iff_eq, ranges]
  exact odd_countP_iff h hlast

theorem exists_of_uncovered_eq_nil {rs rs' : List (Nat × Nat)} (h : uncovered rs rs' = []) :
    ∀ r ∈ rs, ∃ r' ∈ rs', r'.1 ≤ r.1 ∧ r.2 ≤ r'.2 := by
  induction rs' generalizing rs with
  | nil =>
    obtain rfl : rs = [] := h
    simp
  | cons r' rs' ih =>
    intro r hr
    rw [← List.takeWhile_append_dropWhile (p := fun r => r'.1 ≤ r.1 && r.2 ≤ r'.2) (l := rs)] at hr
    cases List.mem_append.mp hr with
    | inl hfront => exact ⟨r', List.mem_cons_self, by simpa using List.mem_takeWhile_imp hfront⟩
    | inr hback =>
      obtain ⟨r'', hmem, hlies⟩ := ih h r hback
      exact ⟨r'', List.mem_cons_of_mem r' hmem, hlies⟩

theorem contains_of_ranges (hs : s.Ordered) (ht : t.Ordered) (h : uncovered s.ranges t.ranges = [])
    (hc : s.contains c = true) : t.contains c = true := by
  rw [contains_iff hs] at hc
  rw [contains_iff ht]
  obtain ⟨r, hr, hstart, hstop⟩ := hc
  obtain ⟨r', hr', hstart', hstop'⟩ := exists_of_uncovered_eq_nil h r hr
  exact ⟨r', hr', hstart'.trans hstart, hstop.trans_le hstop'⟩

theorem not_contains_of_ranges (hs : s.Ordered) (ht : t.Ordered)
    (h : ∀ r ∈ s.ranges, ∀ r' ∈ t.ranges, r.2 ≤ r'.1 ∨ r'.2 ≤ r.1) (hc : s.contains c = true) :
    t.contains c = false := by
  rw [contains_iff hs] at hc
  rw [Bool.eq_false_iff, Ne, contains_iff ht]
  obtain ⟨r, hr, hstart, hstop⟩ := hc
  rintro ⟨r', hr', hstart', hstop'⟩
  have := h r hr r' hr'
  omega

end CodePointSet

theorem ordered_wordCharacters : wordCharacters.Ordered := by
  apply List.isChain_iff_pairwise.mp
  decide +kernel

theorem ordered_decimalDigits : decimalDigits.Ordered := by
  apply List.isChain_iff_pairwise.mp
  decide +kernel

theorem isWordChar_of_isDecimalDigit (c : Char) (h : isDecimalDigit c = true) :
    isWordChar c = true := by
  unfold isDecimalDigit at h
  unfold isWordChar
  split
  . next hascii =>
    rw [if_pos hascii] at h
    simp [Char.isAlphanum, h]
  . next hascii =>
    rw [if_neg hascii] at h
    apply CodePointSet.contains_of_ranges ordered_decimalDigits ordered_wordCharacters _ h
    decide +kernel

theorem ordered_blanks : blanks.Ordered := by
  apply List.isChain_iff_pairwise.mp
  decide +kernel

theorem of_ascii {P : Char → Bool} (h : ∀ n < 128, P (Char.ofNat n) = true) {c : Char}
    (hc : c.toNat < 128) : P c = true := by
  rw [← Char.ofNat_toNat c]
  exact h c.toNat hc

theorem isWordChar_of_isBlank (c : Char) (h : isBlank c = true) : isWordChar c = false := by
  by_cases hascii : c.toNat < 128
  . have himp : (!isBlank c || !isWordChar c) = true :=
      of_ascii (P := fun c => !isBlank c || !isWordChar c) (by decide +kernel) hascii
    simpa [h] using himp
  . rw [isBlank, if_neg hascii] at h
    rw [isWordChar, if_neg hascii]
    apply CodePointSet.not_contains_of_ranges ordered_blanks ordered_wordCharacters _ h
    decide +kernel

end CodeAppraisal.Text
