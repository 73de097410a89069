import CodeAppraisal.Classifier.Generator
import Mathlib

/-!
This module shows that what a generator draws below a bound is below it, and that a shuffle loses
and repeats nothing.
-/
namespace CodeAppraisal.Classifier

namespace Generator

theorem toNat_wideProduct_fst (a b : UInt32) :
    (wideProduct a b).1.toNat = a.toNat * b.toNat / 2 ^ 32 := by
  have ha := a.toNat_lt
  have hb := b.toNat_lt
  have hab : a.toNat * b.toNat < 2 ^ 32 * 2 ^ 32 := Nat.mul_lt_mul'' ha hb
  simp only [wideProduct, UInt64.toNat_toUInt32, UInt64.toNat_shiftRight, UInt64.toNat_mul,
    UInt32.toNat_toUInt64, Nat.shiftRight_eq_div_pow]
  rw [Nat.mod_eq_of_lt (b := 2 ^ 64) (by omega)]
  rw [Nat.mod_eq_of_lt]
  . rfl
  . apply Nat.div_lt_of_lt_mul
    exact hab

theorem toNat_wideProduct_snd (a b : UInt32) :
    (wideProduct a b).2.toNat = a.toNat * b.toNat % 2 ^ 32 := by
  simp only [wideProduct, UInt64.toNat_toUInt32, UInt64.toNat_mul, UInt32.toNat_toUInt64]
  omega

theorem toNat_zero_sub (bound : UInt32) (h : 0 < bound.toNat) :
    (0 - bound).toNat = 2 ^ 32 - bound.toNat := by
  have := bound.toNat_lt
  rw [UInt32.toNat_sub]
  simp only [UInt32.toNat_zero]
  omega

theorem below_lt (g : Generator) (bound : UInt32) (h : 0 < bound.toNat) :
    (g.below bound).1.toNat < bound.toNat := by
  have hword := g.next32.1.toNat_lt
  have hhigh := toNat_wideProduct_fst g.next32.1 bound
  have hlow := toNat_wideProduct_snd g.next32.1 bound
  have hdiv := Nat.div_add_mod (g.next32.1.toNat * bound.toNat) (2 ^ 32)
  have hmul : g.next32.1.toNat * bound.toNat ≤ (2 ^ 32 - 1) * bound.toNat :=
    Nat.mul_le_mul_right _ (by omega)
  have hbound := bound.toNat_lt
  unfold below
  dsimp only
  split
  . next hcarry =>
    -- a low half this large leaves room for the carry below the bound
    rw [gt_iff_lt, UInt32.lt_iff_toNat_lt, toNat_zero_sub bound h] at hcarry
    dsimp only
    split
    . rw [UInt32.toNat_add]
      simp only [UInt32.toNat_one]
      omega
    . omega
  . dsimp only
    omega

theorem length_drawMany (bound n : Nat) (g : Generator) : (drawMany bound n g).1.length = n := by
  induction n generalizing g with
  | zero => rfl
  | succ n ih => simp only [drawMany, List.length_cons, ih]

theorem toNat_below_ofNat_lt (g : Generator) (bound : Nat) (h : 0 < bound) :
    (g.below (UInt32.ofNat bound)).1.toNat < bound := by
  have hmod : (UInt32.ofNat bound).toNat = bound % 2 ^ 32 := UInt32.toNat_ofNat' ..
  have hle := Nat.mod_le bound (2 ^ 32)
  by_cases hzero : (UInt32.ofNat bound).toNat = 0
  . have : UInt32.ofNat bound = 0 := UInt32.toNat_inj.mp hzero
    simp [this, below, wideProduct, h]
  . have := g.below_lt (UInt32.ofNat bound) (by omega)
    omega

theorem mem_drawMany_lt {bound n x : Nat} {g : Generator} (h : 0 < bound)
    (hx : x ∈ (drawMany bound n g).1) : x < bound := by
  induction n generalizing g with
  | zero => simp [drawMany] at hx
  | succ n ih =>
    simp only [drawMany, List.mem_cons] at hx
    cases hx with
    | inl hx =>
      rw [hx]
      exact g.toNat_below_ofNat_lt bound h
    | inr hx => exact ih hx

theorem length_draw64 (n : Nat) (g : Generator) : (draw64 n g).1.length = n := by
  induction n generalizing g with
  | zero => rfl
  | succ n ih => simp only [draw64, List.length_cons, ih]

theorem swapIfInBounds_perm {β : Type} (xs : Array β) (i j : Nat) :
    (xs.swapIfInBounds i j).toList.Perm xs.toList := by
  unfold Array.swapIfInBounds
  split
  . split
    . exact (Array.swap_perm _ _).toList
    . exact .refl _
  . exact .refl _

theorem shuffle_perm {β : Type} (g : Generator) (xs : List β) : (g.shuffle xs).1.Perm xs := by
  unfold shuffle
  split
  . exact .refl xs
  . dsimp only
    generalize IndexDraws.start g = d
    generalize List.range xs.length = places
    -- each place is swapped with another, so the fold keeps a permutation
    suffices h : ∀ ys : Array β, ys.toList.Perm xs →
        (places.foldl (fun p i => (p.1.swapIfInBounds i (p.2.next (i + 1)).1, (p.2.next (i + 1)).2))
          (ys, d)).1.toList.Perm xs by
      exact h xs.toArray (by simp)
    induction places generalizing d with
    | nil => exact fun _ h => h
    | cons i places ih =>
      intro ys hys
      rw [List.foldl_cons]
      exact ih _ _ ((swapIfInBounds_perm ys i _).trans hys)

end Generator

end CodeAppraisal.Classifier
