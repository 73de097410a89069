import CodeAppraisal.Proofs.Binary64.Unpacked

/-!
This module says what sums, differences, halves and comparisons of doubles are, in least units.
-/
namespace CodeAppraisal.Binary64

open Float.Model Float.Model.UnpackedFloat

def units (x : Float) : Int := valueOf x.toModel.unpack

section Packing

def Fits : UnpackedFloat → Prop
  | .finite _ _ e _ => e ≤ 971
  | _ => True

theorem toNat_implicit {n : Nat} (b : BitVec n) : (1#1 ++ b).toNat = 2 ^ n + b.toNat := by
  rw [BitVec.toNat_append, ← Nat.shiftLeft_add_eq_or_of_lt b.isLt]
  simp [Nat.shiftLeft_eq]

theorem canonical_unpack (b : BitVec Format.binary64.numBits)
    (h : (UnpackedFloat.unpack .binary64 b).isFinite) :
    Canonical (UnpackedFloat.unpack .binary64 b) ∧ Fits (UnpackedFloat.unpack .binary64 b) := by
  revert h
  fun_cases UnpackedFloat.unpack with
  | case1 => intro h; cases h
  | case2 => intro h; cases h
  | case3 => exact fun _ => ⟨trivial, trivial⟩
  | case4 mvec evec e svec s _ hevec hmvec =>
    intro _
    have hm : mvec.toNat < 2 ^ 52 := mvec.isLt
    have he : e + 1 = -1074 := by
      simp only [e, hevec]
      rfl
    rw [he]
    exact ⟨⟨by omega, le_rfl, .inr rfl⟩, by simp [Fits]⟩
  | case5 mvec evec e svec s hevec hevec' =>
    intro _
    have hm : mvec.toNat < 2 ^ 52 := mvec.isLt
    have hlt : evec.toNat < 2 ^ 11 := evec.isLt
    have hpos : evec.toNat ≠ 0 := fun hzero => hevec' (BitVec.eq_of_toNat_eq hzero)
    have hne : evec.toNat ≠ 2047 := fun htop => hevec (BitVec.eq_of_toNat_eq htop)
    have he : e = (evec.toNat : Int) - 1075 := rfl
    have hmantissa : (1#1 ++ mvec).toNat = 2 ^ 52 + mvec.toNat := toNat_implicit mvec
    refine ⟨⟨?_, ?_, .inl ?_⟩, ?_⟩
    . omega
    . omega
    . omega
    . change e ≤ 971
      omega

theorem unpack_packComponents_normal {s : Sign} {m b : Nat} (hm : 0 < m) (hb : 0 < b)
    (hb' : b < 2047) (hlow : 2 ^ 52 ≤ m) (hlt : m < 2 ^ 53) :
    UnpackedFloat.unpack .binary64
        (packComponents .binary64 s (BitVec.ofNat 11 b) (BitVec.ofNat 52 m)) =
      .finite s m (b - 1075) hm := by
  have hexponent : (BitVec.ofNat 11 b).toNat = b := by
    rw [BitVec.toNat_ofNat]
    omega
  have hmantissa : (1#1 ++ BitVec.ofNat 52 m).toNat = m := by
    rw [toNat_implicit, BitVec.toNat_ofNat]
    omega
  have hne : BitVec.ofNat 11 b ≠ -1#11 := by
    intro h
    have htop : b = 2047 := hexponent.symm.trans (congrArg BitVec.toNat h)
    omega
  have hne' : BitVec.ofNat 11 b ≠ 0#11 := by
    intro h
    exact hb.ne' (hexponent.symm.trans (congrArg BitVec.toNat h))
  unfold UnpackedFloat.unpack
  simp only [unpackMantissa_packComponents, unpackExponent_packComponents,
    unpackSign_packComponents, Sign.ofBitVec_toBitVec, hne, hne', ↓reduceIte, hexponent, hmantissa]
  rfl

theorem unpack_packComponents_subnormal {s : Sign} {m : Nat} (hm : 0 < m) (hlt : m < 2 ^ 52) :
    UnpackedFloat.unpack .binary64 (packComponents .binary64 s 0#11 (BitVec.ofNat 52 m)) =
      .finite s m (-1074) hm := by
  have hmantissa : (BitVec.ofNat 52 m).toNat = m := by
    rw [BitVec.toNat_ofNat]
    omega
  have hne : BitVec.ofNat 52 m ≠ 0#52 := by
    intro h
    exact hm.ne' (hmantissa.symm.trans (congrArg BitVec.toNat h))
  have hne' : 0#11 ≠ -1#11 := by decide
  unfold UnpackedFloat.unpack
  simp only [unpackMantissa_packComponents, unpackExponent_packComponents,
    unpackSign_packComponents, Sign.ofBitVec_toBitVec, hne, hne', ↓reduceIte, ↓reduceDIte,
    hmantissa]
  rfl

theorem unpack_pack {f : UnpackedFloat} (h : Canonical f) (hfits : Fits f) :
    (pack f).unpack = f := by
  cases f with
  | infinity s => cases h
  | notANumber => cases h
  | zero s => exact unpack_packedZero
  | finite s m e hm =>
    obtain ⟨hlt, he, hlow⟩ := h
    have hle : e ≤ 971 := hfits
    obtain ⟨b, hb⟩ : ∃ b : Nat, b = (e + 1023 + 52).toNat := ⟨_, rfl⟩
    change UnpackedFloat.unpack .binary64 (if 2 ^ 11 ≤ (e + 1023 + 52).toNat + 1 then
      packedInfinity .binary64 s
      else if m.log2 + 1 = 53 then
        packComponents .binary64 s (BitVec.ofNat 11 (e + 1023 + 52).toNat) (BitVec.ofNat 52 m)
      else packComponents .binary64 s 0#11 (BitVec.ofNat 52 m)) = _
    rw [← hb, if_neg (by omega)]
    by_cases hnormal : 2 ^ 52 ≤ m
    . have hlog : m.log2 = 52 := (Nat.log2_eq_iff hm.ne').mpr ⟨hnormal, hlt⟩
      rw [hlog, if_pos rfl, unpack_packComponents_normal hm (by omega) (by omega) hnormal hlt]
      congr 1
      omega
    . have hlog : m.log2 < 52 := (Nat.log2_lt hm.ne').mpr (by omega)
      rw [if_neg (by omega), unpack_packComponents_subnormal hm (by omega)]
      congr 1
      omega

theorem isFinite_pack_iff {f : UnpackedFloat} (h : Canonical f) :
    (pack f).isFinite = true ↔ Fits f := by
  constructor
  . intro hfinite
    cases f with
    | infinity s => cases h
    | notANumber => cases h
    | zero s => trivial
    | finite s m e hm =>
      by_contra hlarge
      have hlarge : 971 < e := not_le.mp hlarge
      have hinfinity : (pack (.finite s m e hm)).unpack = .infinity s := by
        change UnpackedFloat.unpack .binary64 (if 2 ^ 11 ≤ (e + 1023 + 52).toNat + 1 then
          packedInfinity .binary64 s else _) = _
        rw [if_pos (by omega)]
        simp [UnpackedFloat.unpack, packedInfinity]
      change (pack (.finite s m e hm)).unpack.isFinite = true at hfinite
      rw [hinfinity] at hfinite
      cases hfinite
  . intro hfits
    change (pack f).unpack.isFinite = true
    rw [unpack_pack h hfits]
    cases f with
    | infinity s => cases h
    | notANumber => cases h
    | zero s => rfl
    | finite s m e hm => rfl

theorem abs_apply (s : Sign) (m k : Nat) : |s.apply (m * 2 ^ k)| = (m * 2 ^ k : Nat) := by
  cases s <;> simp [Sign.apply, abs_mul]

theorem fits_of_abs_le {f g : UnpackedFloat} {x y : Int} (hf : Denotes f x) (hg : Denotes g y)
    (hfits : Fits g) (hle : |x| ≤ |y|) : Fits f := by
  obtain ⟨s, rfl, rfl⟩ | ⟨s, m, e, hm, rfl, hcanonical, rfl⟩ := hf.cases
  . trivial
  . by_contra hlarge
    have hlarge : 971 < e := not_le.mp hlarge
    have hpos : 0 < m * 2 ^ (e + 1074).toNat := by positivity
    obtain ⟨s', rfl, rfl⟩ | ⟨s', m', e', hm', rfl, hcanonical', rfl⟩ := hg.cases
    . rw [abs_apply, abs_zero] at hle
      omega
    . have hfits : e' ≤ 971 := hfits
      have := lt_of_exponent_lt hcanonical'.1 hcanonical'.2.1 hcanonical.2.2
        (lt_of_le_of_lt hfits hlarge)
      rw [abs_apply, abs_apply] at hle
      omega

end Packing

section Operations

variable {a b : Float}

theorem denotes_units (h : a.isFinite) : Denotes a.toModel.unpack (units a) :=
  ⟨(canonical_unpack _ h).1, rfl⟩

theorem fits_units (h : a.isFinite) : Fits a.toModel.unpack :=
  (canonical_unpack _ h).2

theorem units_eq {f : UnpackedFloat} {z : Int} (h : Denotes f z) (hfits : Fits f) :
    (Float.ofModel (pack f)).isFinite = true ∧ units (.ofModel (pack f)) = z := by
  refine ⟨(isFinite_pack_iff h.canonical).mpr hfits, ?_⟩
  rw [units, unpack_pack h.canonical hfits]
  exact h.valueOf_eq

theorem units_sub (ha : a.isFinite) (hb : b.isFinite) (h : (a - b).isFinite) :
    Rounds (units a - units b) (units (a - b)) := by
  obtain ⟨z, hz, hdenotes⟩ := denotes_sub (denotes_units ha) (denotes_units hb)
  have hfits := (isFinite_pack_iff hdenotes.canonical).mp h
  have hunits : units (a - b) = z := (units_eq hdenotes hfits).2
  rw [hunits]
  exact hz

theorem units_add (ha : a.isFinite) (hb : b.isFinite) :
    ∃ z, Rounds (units a + units b) z ∧
      ∀ c : Float, c.isFinite → |z| ≤ |units c| → (a + b).isFinite ∧ units (a + b) = z := by
  obtain ⟨z, hz, hdenotes⟩ := denotes_add (denotes_units ha) (denotes_units hb)
  refine ⟨z, hz, ?_⟩
  intro c hc hle
  exact units_eq hdenotes (fits_of_abs_le hdenotes (denotes_units hc) (fits_units hc) hle)

theorem units_half (ha : a.isFinite) :
    (a / 2.0).isFinite ∧ Nearest (units a) 2 (units (a / 2.0)) := by
  obtain ⟨z, hz, hdenotes⟩ := denotes_half (denotes_units ha)
  have hle : |z| ≤ |units a| := by
    obtain hneg | hpos := le_total (units a) 0
    . have := hz.ge (by decide) (c := units a) (by omega)
      have := hz.le (by decide) (c := 0) (by omega)
      rw [abs_of_nonpos (by omega), abs_of_nonpos hneg]
      omega
    . have := hz.le (by decide) (c := units a) (by omega)
      have := hz.ge (by decide) (c := 0) (by omega)
      rw [abs_of_nonneg (by omega), abs_of_nonneg hpos]
      omega
  have hfits := fits_of_abs_le hdenotes (denotes_units ha) (fits_units ha) hle
  obtain ⟨hfinite, hunits⟩ := units_eq hdenotes hfits
  have htwo : (2.0 : Float).toModel.unpack = .finite .positive (2 ^ 52) (-51) (by decide) := rfl
  rw [← htwo] at hfinite hunits
  refine ⟨hfinite, ?_⟩
  rw [show units (a / 2.0) = z from hunits]
  exact hz

theorem le_iff_units (ha : a.isFinite) (hb : b.isFinite) : a ≤ b ↔ units a ≤ units b := by
  have hle : a ≤ b ↔ a.toModel.unpack.le b.toModel.unpack = true :=
    decide_eq_true_iff (p := a.toModel ≤ b.toModel)
  rw [hle, UnpackedFloat.le, compare_eq (denotes_units ha) (denotes_units hb), Option.any_some,
    Int.isLE_compare]

theorem lt_iff_unpack : a < b ↔ a.toModel.unpack.lt b.toModel.unpack = true :=
  decide_eq_true_iff (p := a.toModel < b.toModel)

theorem lt_iff_units (ha : a.isFinite) (hb : b.isFinite) : a < b ↔ units a < units b := by
  rw [lt_iff_unpack, UnpackedFloat.lt, compare_eq (denotes_units ha) (denotes_units hb), beq_iff_eq,
    Option.some.injEq, Int.compare_eq_lt]

theorem isFinite_of_between (ha : a.isFinite) (hb : b.isFinite) {x : Float} (hax : a < x)
    (hxb : x < b) : x.isFinite := by
  rw [lt_iff_unpack] at hax hxb
  change x.toModel.unpack.isFinite = true
  cases hx : x.toModel.unpack with
  | zero s => rfl
  | finite s m e hm => rfl
  | notANumber =>
    rw [hx] at hax
    cases hlow : a.toModel.unpack <;> rw [hlow] at hax <;> cases hax
  | infinity s =>
    cases s with
    | negative =>
      rw [hx] at hax
      obtain ⟨s, hlow, _⟩ | ⟨s, m, e, hm, hlow, _⟩ := (denotes_units ha).cases <;>
        rw [hlow] at hax <;> cases hax
    | positive =>
      rw [hx] at hxb
      obtain ⟨s, hhigh, _⟩ | ⟨s, m, e, hm, hhigh, _⟩ := (denotes_units hb).cases <;>
        rw [hhigh] at hxb <;> cases hxb

theorem lt_of_between (ha : a.isFinite) (hb : b.isFinite) {x : Float} (hax : a < x) (hxb : x < b) :
    a < b := by
  have hx := isFinite_of_between ha hb hax hxb
  rw [lt_iff_units ha hx] at hax
  rw [lt_iff_units hx hb] at hxb
  exact (lt_iff_units ha hb).mpr (hax.trans hxb)

end Operations

end CodeAppraisal.Binary64
