import Mathlib

/-!
This module is about rounding to 53 binary digits. All numbers are counted in the least unit of
doubles, so they are whole numbers, and overflow is left to those who pack them.
-/
namespace CodeAppraisal.Binary64

def Representable (c : Int) : Prop := ∀ k : Nat, 2 ^ (52 + k) ≤ |c| → 2 ^ k ∣ c

structure Nearest (x d q : Int) : Prop where
  near : 2 * |x - q * d| ≤ d
  even : 2 * |x - q * d| = d → Even q

def excess (x : Int) : Nat := x.natAbs.log2 - 52

def Rounds (x y : Int) : Prop := ∃ q, y = q * 2 ^ excess x ∧ Nearest x (2 ^ excess x) q

section Nearest

variable {x d q c : Int}

theorem Nearest.le (h : Nearest x d q) (hd : 0 < d) (hc : x ≤ c * d) : q ≤ c := by
  by_contra hlt
  have hmul : (c + 1) * d ≤ q * d := Int.mul_le_mul_of_nonneg_right (by omega) (by omega)
  have hnear := h.near
  rw [abs_of_nonpos (by linarith)] at hnear
  linarith

theorem Nearest.ge (h : Nearest x d q) (hd : 0 < d) (hc : c * d ≤ x) : c ≤ q := by
  by_contra hlt
  have hmul : (q + 1) * d ≤ c * d := Int.mul_le_mul_of_nonneg_right (by omega) (by omega)
  have hnear := h.near
  rw [abs_of_nonneg (by linarith)] at hnear
  linarith

theorem Nearest.natCast_le {x d q c : Nat} (h : Nearest x d q) (hd : 0 < d) (hc : x ≤ c * d) :
    q ≤ c := by
  have := h.le (c := c) (by omega) (by rw [← Int.natCast_mul]; omega)
  omega

theorem Nearest.natCast_ge {x d q c : Nat} (h : Nearest x d q) (hd : 0 < d) (hc : c * d ≤ x) :
    c ≤ q := by
  have := h.ge (c := c) (by omega) (by rw [← Int.natCast_mul]; omega)
  omega

theorem Nearest.neg (h : Nearest x d q) : Nearest (-x) d (-q) := by
  have hsub : -x - -q * d = -(x - q * d) := by ring
  constructor
  . rw [hsub, abs_neg]
    exact h.near
  . rw [hsub, abs_neg, even_neg]
    exact h.even

theorem nearest_mul_right (hc : 0 < c) : Nearest (x * c) (d * c) q ↔ Nearest x d q := by
  have hsub : 2 * |x * c - q * (d * c)| = 2 * |x - q * d| * c := by
    rw [← mul_assoc q, ← sub_mul, abs_mul, abs_of_pos hc, mul_assoc]
  constructor
  . rintro ⟨hnear, heven⟩
    rw [hsub] at hnear heven
    exact ⟨le_of_mul_le_mul_right hnear hc, fun heq => heven (by rw [heq])⟩
  . rintro ⟨hnear, heven⟩
    constructor <;> rw [hsub]
    . exact Int.mul_le_mul_of_nonneg_right hnear hc.le
    . exact fun heq => heven (Int.eq_of_mul_eq_mul_right hc.ne' heq)

end Nearest

section Representable

theorem representable_mul {m : Int} (hm : |m| < 2 ^ 53) (j : Nat) : Representable (2 ^ j * m) := by
  intro k hk
  have hlt : (2 : Int) ^ (52 + k) < 2 ^ (j + 53) := by
    rw [abs_mul, abs_pow, abs_two] at hk
    calc (2 : Int) ^ (52 + k)
      _ ≤ 2 ^ j * |m| := hk
      _ < 2 ^ j * 2 ^ 53 := by gcongr
      _ = 2 ^ (j + 53) := by rw [pow_add]
  have hkj : 52 + k < j + 53 := (pow_lt_pow_iff_right₀ (by decide)).mp hlt
  exact (pow_dvd_pow 2 (by omega)).mul_right m

theorem two_pow_excess_le {x : Int} (h : excess x ≠ 0) :
    2 ^ 52 * 2 ^ excess x ≤ x ∨ 2 ^ 52 * 2 ^ excess x ≤ -x := by
  have hx : x.natAbs ≠ 0 := by
    intro hzero
    simp [excess, hzero] at h
  have hlog := Nat.log2_self_le hx
  rw [show x.natAbs.log2 = 52 + excess x by unfold excess at *; omega] at hlog
  rw [← le_abs, ← pow_add, Int.abs_eq_natAbs]
  exact_mod_cast hlog

theorem excess_eq {x : Int} {k : Nat} (hle : 2 ^ (52 + k) ≤ |x|) (hlt : |x| < 2 ^ (53 + k)) :
    excess x = k := by
  rw [Int.abs_eq_natAbs] at hle hlt
  have hlog : x.natAbs.log2 = 52 + k := by
    rw [Nat.log2_eq_iff]
    . rw [Nat.add_right_comm]
      exact_mod_cast And.intro hle hlt
    . intro hzero
      rw [hzero] at hle
      have : (0 : Int) < 2 ^ (52 + k) := by positivity
      omega
  rw [excess, hlog]
  omega

variable {x y c : Int}

theorem Representable.dvd (hc : Representable c) {k : Nat}
    (h : 2 ^ 52 * 2 ^ k ≤ c ∨ 2 ^ 52 * 2 ^ k ≤ -c) : 2 ^ k ∣ c := by
  apply hc
  rw [pow_add, le_abs]
  exact h

theorem Representable.dvd_or_lt (hc : Representable c) (x : Int) :
    2 ^ excess x ∣ c ∨
      (2 ^ 52 * 2 ^ excess x ≤ x ∨ 2 ^ 52 * 2 ^ excess x ≤ -x) ∧ |c| < 2 ^ 52 * 2 ^ excess x := by
  by_cases hlt : |c| < 2 ^ 52 * 2 ^ excess x
  . by_cases hzero : excess x = 0
    . left
      simp [hzero]
    . exact .inr ⟨two_pow_excess_le hzero, hlt⟩
  . exact .inl (hc.dvd (le_abs.mp (not_lt.mp hlt)))

theorem Rounds.le (h : Rounds x y) (hc : Representable c) (hx : x ≤ c) : y ≤ c := by
  obtain ⟨q, rfl, hq⟩ := h
  have hpos : (0 : Int) < 2 ^ excess x := by positivity
  obtain ⟨b, rfl⟩ | ⟨hfar, hlt⟩ := hc.dvd_or_lt x
  . rw [mul_comm _ b] at hx ⊢
    exact Int.mul_le_mul_of_nonneg_right (hq.le hpos hx) hpos.le
  . rw [abs_lt] at hlt
    have hq := hq.le hpos (c := -2 ^ 52) (by omega)
    have := Int.mul_le_mul_of_nonneg_right hq hpos.le
    omega

theorem Rounds.ge (h : Rounds x y) (hc : Representable c) (hx : c ≤ x) : c ≤ y := by
  obtain ⟨q, rfl, hq⟩ := h
  have hpos : (0 : Int) < 2 ^ excess x := by positivity
  obtain ⟨b, rfl⟩ | ⟨hfar, hlt⟩ := hc.dvd_or_lt x
  . rw [mul_comm _ b] at hx ⊢
    exact Int.mul_le_mul_of_nonneg_right (hq.ge hpos hx) hpos.le
  . rw [abs_lt] at hlt
    have hq := hq.ge hpos (c := 2 ^ 52) (by omega)
    have := Int.mul_le_mul_of_nonneg_right hq hpos.le
    omega

theorem Rounds.eq (h : Rounds x y) (hx : Representable x) : y = x :=
  le_antisymm (h.le hx le_rfl) (h.ge hx le_rfl)

end Representable

theorem Rounds.neg (h : Rounds x y) : Rounds (-x) (-y) := by
  obtain ⟨q, rfl, hq⟩ := h
  have hexcess : excess (-x) = excess x := by rw [excess, Int.natAbs_neg, excess]
  exact ⟨-q, by rw [hexcess, neg_mul], hexcess ▸ hq.neg⟩

theorem Representable.rounds (hx : Representable x) : Rounds x x := by
  obtain ⟨q, hq⟩ : 2 ^ excess x ∣ x := by
    cases hx.dvd_or_lt x with
    | inl hdvd => exact hdvd
    | inr hlt =>
      rw [abs_lt] at hlt
      omega
  rw [mul_comm] at hq
  refine ⟨q, hq, ?_, ?_⟩ <;> rw [← hq, sub_self, abs_zero, mul_zero]
  . positivity
  . intro hzero
    have : (0 : Int) < 2 ^ excess x := by positivity
    omega

def HalfOf (d half : Int) : Prop := ∃ gap, Rounds d gap ∧ Nearest gap 2 half

section HalfOf

variable {d half c : Int}

theorem HalfOf.le (h : HalfOf d half) (hc : Representable (c * 2)) (hd : d ≤ c * 2) :
    half ≤ c := by
  obtain ⟨gap, hgap, hhalf⟩ := h
  exact hhalf.le (by decide) (hgap.le hc hd)

theorem HalfOf.ge (h : HalfOf d half) (hc : Representable (c * 2)) (hd : c * 2 ≤ d) :
    c ≤ half := by
  obtain ⟨gap, hgap, hhalf⟩ := h
  exact hhalf.ge (by decide) (hgap.ge hc hd)

theorem HalfOf.nonneg (h : HalfOf d half) (hd : 0 < d) : 0 ≤ half :=
  h.ge (representable_mul (m := 0) (by decide) 0) hd.le

theorem HalfOf.eq (h : HalfOf (c * 2) half) (hc : Representable (c * 2)) : half = c :=
  le_antisymm (h.le hc le_rfl) (h.ge hc le_rfl)

theorem exists_two_pow_lt_le (hd : 2 ≤ d) : ∃ j : Nat, 2 ^ j < d ∧ d ≤ 2 ^ j * 2 := by
  refine ⟨(d - 1).natAbs.log2, ?_⟩
  have hle := Nat.log2_self_le (n := (d - 1).natAbs) (by omega)
  have hlt := Nat.lt_log2_self (n := (d - 1).natAbs)
  zify at hle hlt
  rw [abs_of_nonneg (by omega)] at hle hlt
  rw [pow_succ] at hlt
  omega

theorem HalfOf.lt (h : HalfOf d half) (hd : 0 < d) : half < d := by
  obtain rfl | hd : d = 1 ∨ 2 ≤ d := by omega
  . obtain ⟨gap, hgap, hhalf⟩ := h
    obtain rfl := hgap.eq (representable_mul (m := 1) (by decide) 0)
    have hle := hhalf.le (by decide) (c := 1) (by decide)
    have heven := hhalf.even
    obtain hlt | rfl := lt_or_eq_of_le hle
    . exact hlt
    . exact absurd (heven rfl) (by decide)
  . obtain ⟨j, hlt, hle⟩ := exists_two_pow_lt_le hd
    have := h.le (representable_mul (by decide) j) hle
    omega

theorem HalfOf.add_lt (h : HalfOf d half) {i : Nat} (hd : 2 ^ i * 4 < d) : half + 2 ^ i < d := by
  have hi : (0 : Int) < 2 ^ i := by positivity
  obtain ⟨j, hlt, hle⟩ := exists_two_pow_lt_le (d := d) (by omega)
  have hij : i + 2 < j + 1 := by
    have : (2 : Int) ^ (i + 2) < 2 ^ (j + 1) := by
      rw [pow_add, pow_succ]
      omega
    exact (pow_lt_pow_iff_right₀ (by decide)).mp this
  obtain ⟨l, rfl⟩ : ∃ l, j = l + 2 := ⟨j - 2, by omega⟩
  have hil : (2 : Int) ^ i ≤ 2 ^ l := pow_le_pow_right₀ (by decide) (by omega)
  rw [pow_add] at hlt hle
  by_cases hd6 : d ≤ 2 ^ l * 3 * 2
  . have hrep : Representable ((2 : Int) ^ l * 3 * 2) := by
      rw [mul_assoc]
      exact representable_mul (by decide) l
    have := h.le hrep hd6
    omega
  . have hrep : Representable ((2 : Int) ^ l * 4 * 2) := by
      rw [mul_assoc]
      exact representable_mul (by decide) l
    have := h.le hrep (by omega)
    omega

end HalfOf

theorem eq_of_dvd_of_le {t d : Int} (ht : 0 < t) (hd : 0 < d) (hle : d ≤ t * 3)
    (hdvd : t * 2 ∣ d) : d = t * 2 := by
  obtain ⟨b, rfl⟩ := hdvd
  have hpos : 0 < b := pos_of_mul_pos_right hd (by omega)
  have hlt : b < 2 := by
    by_contra hlarge
    have := Int.mul_le_mul_of_nonneg_left (not_lt.mp hlarge) (by omega : 0 ≤ t * 2)
    omega
  rw [show b = 1 by omega, mul_one]

/-- Two neighbours of which the first is odd in its last digit, so that a half between them goes to
the second. Neighbours at one least unit from each other have no half between them. -/
def OddNeighbours (here next : Int) : Prop :=
  ∃ (k : Nat) (c : Int), 1 ≤ k ∧ Odd c ∧ 2 ^ 52 ≤ |c| ∧ here = c * 2 ^ k ∧ next = (c + 1) * 2 ^ k

theorem OddNeighbours.lt {here next : Int} (h : OddNeighbours here next) : here < next := by
  obtain ⟨k, c, _, _, _, rfl, rfl⟩ := h
  have : (0 : Int) < 2 ^ k := by positivity
  linarith

section Middle

variable {here next half middle : Int}

theorem middle_mem (hhere : Representable here) (hnext : Representable next) (hlt : here < next)
    (hhalf : HalfOf (next - here) half) (hmiddle : Rounds (here + half) middle) :
    here ≤ middle ∧ middle ≤ next := by
  have hd : 0 < next - here := by omega
  have := hhalf.nonneg hd
  have := hhalf.lt hd
  exact ⟨hmiddle.ge hhere (by omega), hmiddle.le hnext (by omega)⟩

theorem Rounds.exists_digit {x y : Int} (h : Rounds x y) (hlt : x < y) :
    ∃ (i : Nat) (q : Int), y = q * (2 ^ i * 2) ∧ Nearest x (2 ^ i * 2) q ∧ y - x ≤ 2 ^ i ∧
      (2 ^ 52 * (2 ^ i * 2) ≤ x ∨ 2 ^ 52 * (2 ^ i * 2) ≤ -x) := by
  obtain ⟨q, hq, hnear⟩ := h
  have hgap := hnear.near
  rw [← hq, abs_of_neg (by omega)] at hgap
  have hexcess : excess x ≠ 0 := by
    intro hzero
    rw [hzero] at hgap
    omega
  have hfar := two_pow_excess_le hexcess
  obtain ⟨i, hi⟩ := Nat.exists_eq_succ_of_ne_zero hexcess
  rw [hi, Nat.succ_eq_add_one, pow_succ _ i] at hq hnear hgap hfar
  exact ⟨i, q, hq, hnear, by omega, hfar⟩

theorem dvd_of_nearest_pos {i : Nat} {q : Int} (hhere : Representable here)
    (hnear : Nearest (here + half) (2 ^ i * 2) q) (hlt : here + half < q * (2 ^ i * 2))
    (hhalf : half ≤ 2 ^ i * 2) (hfar : 2 ^ 52 * (2 ^ i * 2) ≤ here + half) :
    2 ^ i * 2 ∣ here := by
  have hpos : (0 : Int) < 2 ^ i := by positivity
  have hqge := hnear.ge (c := 2 ^ 52) (by omega) (by omega)
  have hqgt : 2 ^ 52 + 1 ≤ q := by
    by_contra hsmall
    obtain rfl : q = 2 ^ 52 := by omega
    omega
  have hnextge := Int.mul_le_mul_of_nonneg_right hqgt (by omega : (0 : Int) ≤ 2 ^ i * 2)
  have hgap := hnear.near
  rw [abs_of_neg (by omega)] at hgap
  by_cases hfarhere : 2 ^ 52 * (2 ^ i * 2) ≤ here
  . rw [← pow_succ] at hfarhere ⊢
    exact hhere.dvd (.inl hfarhere)
  . -- One digit less leaves one number, three half digits before the next.
    exfalso
    obtain ⟨b, hb⟩ := hhere.dvd (k := i) (.inl (by omega))
    have hblt : b < 2 ^ 53 := by
      by_contra hlarge
      have := Int.mul_le_mul_of_nonneg_left (not_lt.mp hlarge) hpos.le
      omega
    have hbgt : 2 ^ 53 - 2 < b := by
      by_contra hsmall
      have := Int.mul_le_mul_of_nonneg_left (not_lt.mp hsmall) hpos.le
      omega
    obtain rfl : b = 2 ^ 53 - 1 := by omega
    have hqeq : q * (2 ^ i * 2) = (2 ^ 52 + 1) * (2 ^ i * 2) := by omega
    obtain rfl := Int.eq_of_mul_eq_mul_right (by omega) hqeq
    have heven := hnear.even (by rw [abs_of_neg (by omega)]; omega)
    exact absurd heven (by decide)

theorem dvd_of_nearest_neg {i : Nat} {q : Int} (hhere : Representable here)
    (hnear : Nearest (here + half) (2 ^ i * 2) q) (hlt : here < q * (2 ^ i * 2))
    (hfar : 2 ^ 52 * (2 ^ i * 2) ≤ -(here + half)) : 2 ^ i * 2 ∣ here := by
  have hpos : (0 : Int) < 2 ^ i := by positivity
  have hqle := hnear.le (c := -2 ^ 52) (by omega) (by omega)
  have hnextle := Int.mul_le_mul_of_nonneg_right hqle (by omega : (0 : Int) ≤ 2 ^ i * 2)
  rw [← pow_succ] at hlt hnextle ⊢
  exact hhere.dvd (.inr (by omega))

theorem oddNeighbours_of_middle_eq (hhere : Representable here) (hlt : here < next)
    (hhalf : HalfOf (next - here) half) (hmiddle : Rounds (here + half) next) :
    OddNeighbours here next := by
  have hback := hhalf.lt (by omega)
  obtain ⟨i, q, hq, hnear, hgap, hfar⟩ := hmiddle.exists_digit (by omega)
  have hpos : (0 : Int) < 2 ^ i := by positivity
  have hdle : next - here ≤ 2 ^ i * 4 := by
    by_contra hlarge
    have := hhalf.add_lt (i := i) (by omega)
    omega
  have hhalfle : half ≤ 2 ^ i * 2 := by
    refine hhalf.le ?_ (by omega)
    rw [mul_assoc]
    exact representable_mul (by decide) i
  have hdvd : 2 ^ i * 2 ∣ here := by
    cases hfar with
    | inl hfar => exact dvd_of_nearest_pos hhere hnear (by omega) hhalfle hfar
    | inr hfar => exact dvd_of_nearest_neg hhere hnear (by omega) hfar
  have hd : next - here = 2 ^ i * 2 :=
    eq_of_dvd_of_le hpos (by omega) (by omega) (Int.dvd_sub ⟨q, by rw [hq, mul_comm]⟩ hdvd)
  have hhalf : half = 2 ^ i := by
    rw [hd] at hhalf
    exact hhalf.eq (representable_mul (by decide) i)
  refine ⟨i + 1, q - 1, by omega, ?_, ?_, ?_, ?_⟩
  . apply Even.sub_odd _ odd_one
    apply hnear.even
    rw [abs_of_neg (by omega)]
    omega
  . have hx : here + half = (2 * (q - 1) + 1) * 2 ^ i := by
      linarith
    rw [hx, show (2 : Int) ^ 52 * (2 ^ i * 2) = 2 ^ 53 * 2 ^ i by ring, ← neg_mul] at hfar
    rw [le_abs]
    cases hfar with
    | inl hfar => exact .inl (by have := le_of_mul_le_mul_right hfar hpos; omega)
    | inr hfar => exact .inr (by have := le_of_mul_le_mul_right hfar hpos; omega)
  . rw [pow_succ, sub_mul, ← hq]
    omega
  . rw [pow_succ, sub_add_cancel]
    exact hq

theorem abs_lt_of_odd {c : Int} {i : Nat} (h : Representable (c * 2 ^ (i + 1))) (hodd : Odd c) :
    |c| < 2 ^ 53 := by
  by_contra hsize
  obtain ⟨b, hb⟩ := h (i + 2) (by
    rw [abs_mul, abs_pow, abs_two]
    calc (2 : Int) ^ (52 + (i + 2))
      _ = 2 ^ 53 * 2 ^ (i + 1) := by ring
      _ ≤ |c| * 2 ^ (i + 1) := by gcongr; exact not_lt.mp hsize)
  have heven : c = 2 * b := by
    apply Int.eq_of_mul_eq_mul_right (pow_ne_zero (i + 1) two_ne_zero)
    rw [hb]
    ring
  rw [heven] at hodd
  exact absurd hodd (by simp)

theorem excess_half_way {c : Int} {i : Nat} (hodd : Odd c) (hlarge : 2 ^ 52 ≤ |c|)
    (hsmall : |c| < 2 ^ 53) : excess ((2 * c + 1) * 2 ^ i) = i + 1 := by
  have hends : c ≠ 2 ^ 52 ∧ c ≠ -2 ^ 52 := by
    constructor <;> rintro rfl <;> exact absurd hodd (by decide)
  have hbounds : 2 ^ 53 ≤ |2 * c + 1| ∧ |2 * c + 1| < 2 ^ 54 := by
    rw [le_abs] at hlarge ⊢
    rw [abs_lt] at hsmall ⊢
    omega
  apply excess_eq <;> rw [abs_mul, abs_pow, abs_two]
  . calc (2 : Int) ^ (52 + (i + 1))
      _ = 2 ^ 53 * 2 ^ i := by ring
      _ ≤ |2 * c + 1| * 2 ^ i := by gcongr; exact hbounds.1
  . calc |2 * c + 1| * 2 ^ i
      _ < 2 ^ 54 * 2 ^ i := by gcongr; exact hbounds.2
      _ = 2 ^ (53 + (i + 1)) := by ring

theorem middle_eq_of_oddNeighbours (hhere : Representable here) (h : OddNeighbours here next)
    (hhalf : HalfOf (next - here) half) (hmiddle : Rounds (here + half) middle) :
    middle = next := by
  obtain ⟨k, c, hk, hodd, hlarge, rfl, rfl⟩ := h
  obtain ⟨i, rfl⟩ : ∃ i, k = i + 1 := ⟨k - 1, by omega⟩
  have hpos : (0 : Int) < 2 ^ i := by positivity
  have hhalf : half = 2 ^ i := by
    rw [← sub_mul, add_sub_cancel_left, one_mul, pow_succ] at hhalf
    exact hhalf.eq (representable_mul (by decide) i)
  have hx : c * 2 ^ (i + 1) + half = (2 * c + 1) * 2 ^ i := by
    rw [hhalf]
    ring
  obtain ⟨q, rfl, hnear⟩ := hmiddle
  rw [hx, excess_half_way hodd hlarge (abs_lt_of_odd hhere hodd)] at hnear ⊢
  rw [pow_succ] at hnear
  have hle : q ≤ c + 1 := hnear.le (by omega) (by linarith)
  have hge : c ≤ q := hnear.ge (by omega) (by linarith)
  obtain rfl | rfl : q = c ∨ q = c + 1 := by omega
  . have heven := hnear.even (by
      rw [abs_of_pos (by linarith)]
      ring)
    exact absurd heven (Int.not_even_iff_odd.mpr hodd)
  . rfl

end Middle

end CodeAppraisal.Binary64
