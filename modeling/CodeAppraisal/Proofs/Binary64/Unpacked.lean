import CodeAppraisal.Proofs.Binary64.Rounding

/-!
This module shows that operations on unpacked doubles round what they stand for, in least units.
-/
namespace CodeAppraisal.Binary64

open Float.Model Float.Model.UnpackedFloat

def Canonical : UnpackedFloat → Prop
  | .zero _ => True
  | .finite _ m e _ => m < 2 ^ 53 ∧ -1074 ≤ e ∧ (2 ^ 52 ≤ m ∨ e = -1074)
  | _ => False

def valueOf : UnpackedFloat → Int
  | .finite s m e _ => s.apply (m * 2 ^ (e + 1074).toNat)
  | _ => 0

section Shift

structure Keeps (em : ExtendedMantissa) (x d : Nat) : Prop where
  mantissa_eq : em.mantissa = x / d
  roundBit_iff : em.roundBit = true ↔ d ≤ 2 * (x % d)
  stickyBit_iff : em.stickyBit = true ↔ 2 * (x % d) ≠ 0 ∧ 2 * (x % d) ≠ d

variable {em : ExtendedMantissa} {x d : Nat}

theorem keeps_ofMantissaAndAccuracy (hd : 0 < d) :
    Keeps (.ofMantissaAndAccuracy (x / d) (accuracyOfFraction (x % d) d)) x d := by
  unfold accuracyOfFraction
  split
  . next hzero => constructor <;> simp [ExtendedMantissa.ofMantissaAndAccuracy, hzero, hd.ne']
  . cases hcmp : compare (2 * (x % d)) d with
    | lt =>
      rw [Nat.compare_eq_lt] at hcmp
      constructor <;> simp [ExtendedMantissa.ofMantissaAndAccuracy] <;> omega
    | eq =>
      rw [Nat.compare_eq_eq] at hcmp
      constructor <;> simp [ExtendedMantissa.ofMantissaAndAccuracy] <;> omega
    | gt =>
      rw [Nat.compare_eq_gt] at hcmp
      constructor <;> simp [ExtendedMantissa.ofMantissaAndAccuracy] <;> omega

theorem Keeps.shiftRightOne (h : Keeps em x d) (hd : 0 < d) :
    Keeps em.shiftRightOne x (d * 2) := by
  have hlt := Nat.mod_lt x hd
  have hmod : x % (d * 2) = x % d + d * (x / d % 2) := Nat.mod_mul
  have hbit : x / d % 2 = 0 ∨ x / d % 2 = 1 := by omega
  constructor
  . rw [ExtendedMantissa.shiftRightOne, h.mantissa_eq, Nat.div_div_eq_div_mul]
  . simp only [ExtendedMantissa.shiftRightOne, h.mantissa_eq, bne_iff_ne]
    obtain hbit | hbit := hbit <;> rw [hmod, hbit] <;> omega
  . simp only [ExtendedMantissa.shiftRightOne, Bool.or_eq_true, h.roundBit_iff, h.stickyBit_iff]
    obtain hbit | hbit := hbit <;> rw [hmod, hbit] <;> omega

theorem Keeps.shiftRight (h : Keeps em x d) (hd : 0 < d) (n : Nat) :
    Keeps (em >>> n) x (d * 2 ^ n) := by
  change Keeps (n.repeat ExtendedMantissa.shiftRightOne em) _ _
  induction n with
  | zero => simpa [Nat.repeat] using h
  | succ n ih =>
    rw [Nat.repeat, Nat.pow_succ, ← Nat.mul_assoc]
    exact ih.shiftRightOne (by positivity)

theorem Keeps.nearest (h : Keeps em x d) (hd : 0 < d) : Nearest x d em.roundedMantissa := by
  have hlt := Nat.mod_lt x hd
  have hx : (x : Int) = x / d * d + x % d := (Int.ediv_mul_add_emod x d).symm
  obtain ⟨m, r, s⟩ := em
  obtain ⟨rfl, hr, hs⟩ := h
  have hfloor : (x : Int) - (x / d : Nat) * d = (x % d : Nat) := by
    push_cast
    linarith
  have hceil : (x : Int) - (x / d + 1 : Nat) * d = (x % d : Nat) - d := by
    push_cast
    linarith
  have hdown : 2 * (x % d) < d → Nearest x d (x / d : Nat) := by
    intro hless
    constructor <;> rw [hfloor, abs_of_nonneg (by omega)] <;> omega
  have hup : d < 2 * (x % d) → Nearest x d (x / d + 1 : Nat) := by
    intro hmore
    constructor <;> rw [hceil, abs_of_nonpos (by omega)] <;> omega
  have htie : 2 * (x % d) = d → Nearest x d (x / d + x / d % 2 : Nat) := by
    intro heq
    constructor
    . obtain hbit | hbit : x / d % 2 = 0 ∨ x / d % 2 = 1 := by omega
      . rw [hbit, Nat.add_zero, hfloor, abs_of_nonneg (by omega)]
        omega
      . rw [hbit, hceil, abs_of_nonpos (by omega)]
        omega
    . intro _
      rw [Int.even_coe_nat, Nat.even_iff]
      omega
  unfold ExtendedMantissa.roundedMantissa
  cases r <;> cases s <;> simp only [ExtendedMantissa.accuracy, Accuracy.roundToNearestEven]
  . exact hdown (by simp at hr; exact hr)
  . exact hdown (by simp at hr; exact hr)
  . simp at hr hs
    exact htie (hs (by omega))
  . simp at hr hs
    exact hup (by omega)

end Shift

section Round

structure Denotes (f : UnpackedFloat) (y : Int) : Prop where
  canonical : Canonical f
  valueOf_eq : valueOf f = y

theorem targetExponent_eq (m : Nat) (e : Int) :
    Format.binary64.targetExponent (totalExponent m e) = max (m.log2 + e - 52) (-1074) := by
  have : m.log2 + 1 + e - 53 = m.log2 + e - 52 := by omega
  rw [← this]
  rfl

theorem shift_carry {r : Nat} {e : Int} (hr : r ≤ 2 ^ 53) (he : -1074 ≤ e)
    (hlow : 2 ^ 52 ≤ r ∨ e = -1074) :
    let p := shiftToTargetExponent .binary64 r e .exact
    (p.1.mantissa < 2 ^ 53 ∧ -1074 ≤ p.2 ∧ (2 ^ 52 ≤ p.1.mantissa ∨ p.2 = -1074)) ∧
      p.1.mantissa * 2 ^ (p.2 + 1074).toNat = r * 2 ^ (e + 1074).toNat := by
  -- a mantissa that was rounded up may have one digit more, which is then a zero
  obtain hlt | rfl := lt_or_eq_of_le hr
  . have hlog : r.log2 < 53 := by
      by_cases hzero : r = 0
      . simp [hzero]
      . exact (Nat.log2_lt hzero).mpr hlt
    have hshift : (Format.binary64.targetExponent (totalExponent r e) - e).toNat = 0 := by
      rw [targetExponent_eq]
      omega
    simp only [shiftToTargetExponent, shiftToExponent, hshift]
    change (r < 2 ^ 53 ∧ -1074 ≤ e + 0 ∧ (2 ^ 52 ≤ r ∨ e + 0 = -1074)) ∧
      r * 2 ^ (e + 0 + 1074).toNat = r * 2 ^ (e + 1074).toNat
    rw [Int.add_zero]
    exact ⟨⟨hlt, he, hlow⟩, rfl⟩
  . have hshift : (Format.binary64.targetExponent (totalExponent (2 ^ 53) e) - e).toNat = 1 := by
      rw [targetExponent_eq, Nat.log2_two_pow]
      omega
    simp only [shiftToTargetExponent, shiftToExponent, hshift]
    change (2 ^ 52 < 2 ^ 53 ∧ -1074 ≤ e + 1 ∧ (2 ^ 52 ≤ 2 ^ 52 ∨ e + 1 = -1074)) ∧
      2 ^ 52 * 2 ^ (e + 1 + 1074).toNat = 2 ^ 53 * 2 ^ (e + 1074).toNat
    refine ⟨⟨by decide, by omega, .inl le_rfl⟩, ?_⟩
    rw [show (e + 1 + 1074).toNat = (e + 1074).toNat + 1 by omega]
    ring

theorem roundWithAccuracy_eq (s : Sign) {m n : Nat} {e : Int} (acc : Accuracy)
    (hn : Format.binary64.targetExponent (totalExponent m e) = e + n) :
    roundWithAccuracy .binary64 s m e acc =
      let p := shiftToTargetExponent .binary64
        (ExtendedMantissa.ofMantissaAndAccuracy m acc >>> n).roundedMantissa (e + n) .exact
      if h : p.1.mantissa = 0 then .zero s
      else .finite s p.1.mantissa p.2 (Nat.pos_of_ne_zero h) := by
  have hshift : (e + n - e).toNat = n := by omega
  unfold roundWithAccuracy
  rw [shiftToTargetExponent, shiftToExponent, hn, hshift]

theorem digits_of_nearest {x d n r : Nat} {e : Int} (hd : 0 < d) (he : -1074 ≤ e)
    (hn : Format.binary64.targetExponent (totalExponent (x / d) e) = e + n)
    (hnear : Nearest x (d * 2 ^ n : Nat) r) :
    r ≤ 2 ^ 53 ∧ (2 ^ 52 ≤ r ∨ e + n = -1074) := by
  have hpos : 0 < d * 2 ^ n := by positivity
  rw [targetExponent_eq] at hn
  constructor
  . have hlt := Nat.lt_log2_self (n := x / d)
    rw [Nat.div_lt_iff_lt_mul hd] at hlt
    apply hnear.natCast_le hpos
    calc x
      _ ≤ 2 ^ ((x / d).log2 + 1) * d := hlt.le
      _ ≤ 2 ^ (53 + n) * d := Nat.mul_le_mul_right d (Nat.pow_le_pow_right (by decide) (by omega))
      _ = 2 ^ 53 * (d * 2 ^ n) := by ring
  . by_cases hleast : e + n = -1074
    . exact .inr hleast
    . left
      have hlog : (x / d).log2 = 52 + n := by omega
      have hge := Nat.log2_self_le (n := x / d) (by
        intro hzero
        rw [hzero, Nat.log2_zero] at hlog
        omega)
      rw [hlog, Nat.le_div_iff_mul_le hd] at hge
      apply hnear.natCast_ge hpos
      calc 2 ^ 52 * (d * 2 ^ n)
        _ = 2 ^ (52 + n) * d := by ring
        _ ≤ x := hge

theorem denotes_roundWithAccuracy (s : Sign) {x d n : Nat} {e : Int} (hd : 0 < d)
    (he : -1074 ≤ e)
    (hn : Format.binary64.targetExponent (totalExponent (x / d) e) = e + n) :
    ∃ r : Nat, Nearest x (d * 2 ^ n : Nat) r ∧
      Denotes (roundWithAccuracy .binary64 s (x / d) e (accuracyOfFraction (x % d) d))
        (s.apply (r * 2 ^ (e + n + 1074).toNat)) := by
  have hkeeps := (keeps_ofMantissaAndAccuracy (x := x) hd).shiftRight hd n
  have hnear := hkeeps.nearest (by positivity)
  obtain ⟨hle, hlow⟩ := digits_of_nearest hd he hn hnear
  rw [roundWithAccuracy_eq s _ hn]
  refine ⟨_, hnear, ?_⟩
  generalize (ExtendedMantissa.ofMantissaAndAccuracy (x / d) (accuracyOfFraction (x % d) d) >>>
    n).roundedMantissa = r at *
  obtain ⟨hcanonical, hvalue⟩ := shift_carry hle (by omega) hlow
  generalize shiftToTargetExponent .binary64 r (e + n) .exact = p at *
  zify at hvalue
  dsimp only
  rw [← hvalue]
  split
  . next hzero =>
    refine ⟨trivial, ?_⟩
    cases s <;> simp [hzero, valueOf, Sign.apply]
  . exact ⟨hcanonical, rfl⟩

theorem log2_mul_two_pow {m : Nat} (hm : 0 < m) (k : Nat) : (m * 2 ^ k).log2 = m.log2 + k := by
  rw [Nat.log2_eq_iff (by positivity)]
  have hle := Nat.log2_self_le hm.ne'
  have hlt := Nat.lt_log2_self (n := m)
  constructor
  . rw [pow_add]
    exact Nat.mul_le_mul_right _ hle
  . rw [Nat.add_right_comm, pow_add]
    exact Nat.mul_lt_mul_of_pos_right hlt (by positivity)

theorem denotes_round (s : Sign) {m : Nat} {e : Int} (hm : 0 < m) (he : -1074 ≤ e) :
    ∃ y : Int, Rounds (m * 2 ^ (e + 1074).toNat) y ∧
      Denotes (UnpackedFloat.round .binary64 s m e) (s.apply y) := by
  obtain ⟨a, ha⟩ : ∃ a : Nat, a = (e - max (m.log2 + e - 52) (-1074)).toNat := ⟨_, rfl⟩
  obtain ⟨n, hn⟩ : ∃ n : Nat, n = (max (m.log2 + e - 52) (-1074) - (e - a)).toNat := ⟨_, rfl⟩
  have htarget : Format.binary64.targetExponent
      (totalExponent (m * 2 ^ a / 1) (e - a)) = e - a + n := by
    rw [targetExponent_eq, Nat.div_one, log2_mul_two_pow hm]
    omega
  obtain ⟨r, hr, hdenotes⟩ := denotes_roundWithAccuracy s Nat.one_pos (by omega) htarget
  rw [Nat.div_one, Nat.mod_one, Nat.one_mul] at *
  have hround : UnpackedFloat.round .binary64 s m e =
      roundWithAccuracy .binary64 s (m * 2 ^ a) (e - a) (accuracyOfFraction 0 1) := by
    rw [UnpackedFloat.round, decreaseExponent, targetExponent_eq, ← ha, Nat.shiftLeft_eq]
    rfl
  have hexcess : excess (m * 2 ^ (e + 1074).toNat) = (e - a + n + 1074).toNat := by
    have hcast : ((m : Int) * 2 ^ (e + 1074).toNat).natAbs = m * 2 ^ (e + 1074).toNat := by
      rw [Int.natAbs_mul, Int.natAbs_pow, Int.natAbs_natCast]
      rfl
    rw [excess, hcast, log2_mul_two_pow hm]
    omega
  refine ⟨_, ⟨r, rfl, ?_⟩, hround ▸ ?_⟩
  . rw [hexcess]
    have hscaled := (nearest_mul_right (c := 2 ^ (e - a + 1074).toNat) (by positivity)).mpr hr
    rw [show (e + 1074).toNat = a + (e - a + 1074).toNat by omega,
      show (e - a + n + 1074).toNat = n + (e - a + 1074).toNat by omega, pow_add, pow_add,
      ← mul_assoc]
    exact_mod_cast hscaled
  . rw [hexcess]
    exact hdenotes

theorem denotes_normalize (m : Int) {e : Int} (he : -1074 ≤ e) (s : Sign) :
    ∃ y, Rounds (m * 2 ^ (e + 1074).toNat) y ∧
      Denotes (UnpackedFloat.normalize .binary64 m e s) y := by
  unfold UnpackedFloat.normalize
  cases hcmp : compare m 0 with
  | lt =>
    have hneg : m < 0 := Int.compare_eq_lt.mp hcmp
    obtain ⟨y, hy, hdenotes⟩ := denotes_round .negative (m := (-m).toNat) (e := e) (by omega) he
    refine ⟨-y, ?_, hdenotes⟩
    rw [Int.toNat_of_nonneg (by omega), neg_mul] at hy
    simpa using hy.neg
  | eq =>
    have hzero : m = 0 := Int.compare_eq_eq.mp hcmp
    rw [hzero, zero_mul]
    exact ⟨0, (representable_mul (m := 0) (by decide) 0).rounds, trivial, rfl⟩
  | gt =>
    have hpos : 0 < m := Int.compare_eq_gt.mp hcmp
    obtain ⟨y, hy, hdenotes⟩ := denotes_round .positive (m := m.toNat) (e := e) (by omega) he
    rw [Int.toNat_of_nonneg (by omega)] at hy
    exact ⟨y, hy, hdenotes⟩

end Round

section Operations

variable {f g : UnpackedFloat} {x y : Int}

theorem Denotes.cases (h : Denotes f x) :
    (∃ s, f = .zero s ∧ x = 0) ∨
      ∃ s m e hm, f = .finite s m e hm ∧ Canonical (.finite s m e hm) ∧
        x = s.apply (m * 2 ^ (e + 1074).toNat) := by
  obtain ⟨hcanonical, rfl⟩ := h
  cases f with
  | infinity s => cases hcanonical
  | notANumber => cases hcanonical
  | zero s => exact .inl ⟨s, rfl, rfl⟩
  | finite s m e hm => exact .inr ⟨s, m, e, hm, rfl, hcanonical, rfl⟩

theorem Denotes.representable (h : Denotes f x) : Representable x := by
  obtain ⟨s, rfl, rfl⟩ | ⟨s, m, e, hm, rfl, hcanonical, rfl⟩ := h.cases
  . exact representable_mul (m := 0) (by decide) 0
  . obtain ⟨hlt, -, -⟩ := hcanonical
    have hvalue : s.apply (m * 2 ^ (e + 1074).toNat) = 2 ^ (e + 1074).toNat * s.apply m := by
      cases s <;> simp [Sign.apply, mul_comm]
    rw [hvalue]
    apply representable_mul
    cases s <;> simp [Sign.apply] <;> omega

theorem Denotes.neg (h : Denotes f x) : Denotes f.neg (-x) := by
  obtain ⟨s, rfl, rfl⟩ | ⟨s, m, e, hm, rfl, hcanonical, rfl⟩ := h.cases
  . exact ⟨trivial, rfl⟩
  . refine ⟨hcanonical, ?_⟩
    cases s
    . exact (neg_neg _).symm
    . rfl

theorem valueOf_aligned {s : Sign} {m : Nat} {e least : Int} (hm : 0 < m) (hleast : -1074 ≤ least)
    (hle : least ≤ e) :
    s.apply (m <<< (e - least).toNat) * 2 ^ (least + 1074).toNat = valueOf (.finite s m e hm) := by
  have hsplit : (e + 1074).toNat = (e - least).toNat + (least + 1074).toNat := by omega
  rw [valueOf, hsplit, Nat.shiftLeft_eq]
  cases s <;> simp [Sign.apply, pow_add, mul_assoc]

theorem denotes_add (hf : Denotes f x) (hg : Denotes g y) :
    ∃ z, Rounds (x + y) z ∧ Denotes (add .binary64 f g) z := by
  have hx := hf.representable
  have hy := hg.representable
  obtain ⟨s, rfl, rfl⟩ | ⟨s, m, e, hm, rfl, hcanonical, rfl⟩ := hf.cases <;>
    obtain ⟨s', rfl, rfl⟩ | ⟨s', m', e', hm', rfl, hcanonical', rfl⟩ := hg.cases
  . refine ⟨0, hx.rounds, ?_⟩
    cases s <;> cases s' <;> exact ⟨trivial, rfl⟩
  . rw [zero_add]
    exact ⟨_, hy.rounds, hg⟩
  . rw [add_zero]
    exact ⟨_, hx.rounds, hf⟩
  . obtain ⟨-, he, -⟩ := hcanonical
    obtain ⟨-, he', -⟩ := hcanonical'
    have hleast : -1074 ≤ min e e' := le_min he he'
    have hsum := denotes_normalize (s.apply (m <<< (e - min e e').toNat : Nat) +
      s'.apply (m' <<< (e' - min e e').toNat : Nat)) hleast .positive
    rw [add_mul, valueOf_aligned hm hleast (min_le_left e e'),
      valueOf_aligned hm' hleast (min_le_right e e')] at hsum
    exact hsum

theorem sub_eq_add_neg (f g : UnpackedFloat) : sub .binary64 f g = add .binary64 f g.neg := by
  cases f <;> cases g <;> try rfl
  next s m e hm s' m' e' hm' =>
    have hsign (n : Int) : s.apply (m <<< (e - min e e').toNat : Nat) - s'.apply n =
        s.apply (m <<< (e - min e e').toNat : Nat) + (-s').apply n := by
      cases s'
      . exact Int.sub_neg _ n
      . rfl
    simp only [UnpackedFloat.sub, UnpackedFloat.add, UnpackedFloat.neg, decreaseExponent, hsign]

theorem denotes_sub (hf : Denotes f x) (hg : Denotes g y) :
    ∃ z, Rounds (x - y) z ∧ Denotes (sub .binary64 f g) z := by
  rw [sub_eq_add_neg, Int.sub_eq_add_neg]
  exact denotes_add hf hg.neg

theorem nearest_two_of_nearest {u r : Int} {k : Nat} (h : Nearest u (2 * 2 ^ k) r)
    (hk : k ≠ 0 → 2 * 2 ^ k ∣ u) : Nearest u 2 (r * 2 ^ k) := by
  by_cases hzero : k = 0
  . simpa [hzero] using h
  . obtain ⟨w, rfl⟩ := hk hzero
    have hpos : (0 : Int) < 2 * 2 ^ k := by positivity
    obtain rfl : r = w := le_antisymm (h.le hpos (by rw [mul_comm])) (h.ge hpos (by rw [mul_comm]))
    have hsub : 2 * 2 ^ k * r - r * 2 ^ k * 2 = 0 := by ring
    constructor <;> rw [hsub, abs_zero] <;> simp

theorem log2_div_two_pow (m k : Nat) : (m / 2 ^ k).log2 = m.log2 - k := by
  induction k with
  | zero => simp
  | succ k ih =>
    have hhalf (n : Nat) : (n / 2).log2 = n.log2 - 1 := by
      rw [Nat.log2_def n]
      split
      . rfl
      . rw [Nat.div_eq_of_lt (by omega), Nat.log2_zero]
    rw [pow_succ, ← Nat.div_div_eq_div_mul, hhalf, ih, Nat.sub_sub]

theorem divCore_two {m a : Nat} {e t : Int} (hm : m.log2 < 53) (he : -1074 ≤ e)
    (ht : t = max (m.log2 + e - 54) (-1074)) (ha : a = (e + 51 - t).toNat) :
    divCore .binary64 m e (2 ^ 52) (-51) =
      (m * 2 ^ a / 2 ^ 52, t, accuracyOfFraction (m * 2 ^ a % 2 ^ 52) (2 ^ 52)) := by
  have hleast : min (e - -51) (Format.binary64.targetExponent
      (totalExponent m e - totalExponent (2 ^ 52) (-51))) = t := by
    change min (e - -51) (max (m.log2 + 1 + e - (52 + 1 + -51) - 53) (-1074)) = t
    omega
  rw [divCore, hleast, Nat.shiftLeft_eq, ha, Int.sub_neg]

theorem nearest_half_units {m a n i k : Nat} {r : Int} (hi : a + i = k + 51)
    (h : Nearest (m * 2 ^ a : Nat) (2 ^ 52 * 2 ^ n : Nat) r) :
    Nearest (m * 2 ^ k) (2 * 2 ^ (n + i)) r := by
  have hscaled := (nearest_mul_right (c := 2 ^ i) (by positivity)).mpr h
  rw [← nearest_mul_right (c := 2 ^ 51) (by positivity)]
  have hx : (m : Int) * 2 ^ k * 2 ^ 51 = (m * 2 ^ a : Nat) * 2 ^ i := by
    rw [Nat.cast_mul, Nat.cast_pow, Nat.cast_ofNat, mul_assoc, mul_assoc, ← pow_add, ← pow_add, hi]
  have hd : (2 : Int) * 2 ^ (n + i) * 2 ^ 51 = (2 ^ 52 * 2 ^ n : Nat) * 2 ^ i := by
    push_cast
    ring
  rw [hx, hd]
  exact hscaled

theorem denotes_half (hf : Denotes f x) :
    ∃ z, Nearest x 2 z ∧
      Denotes (UnpackedFloat.div .binary64 f (.finite .positive (2 ^ 52) (-51) (by decide))) z := by
  obtain ⟨s, rfl, rfl⟩ | ⟨s, m, e, hm, rfl, hcanonical, rfl⟩ := hf.cases
  . exact ⟨0, ⟨by decide, fun _ => Even.zero⟩, by cases s <;> exact ⟨trivial, rfl⟩⟩
  . obtain ⟨hlt, he, -⟩ := hcanonical
    have hlog : m.log2 < 53 := (Nat.log2_lt hm.ne').mpr hlt
    obtain ⟨t, ht⟩ : ∃ t : Int, t = max (m.log2 + e - 54) (-1074) := ⟨_, rfl⟩
    obtain ⟨a, ha⟩ : ∃ a : Nat, a = (e + 51 - t).toNat := ⟨_, rfl⟩
    have htarget : Format.binary64.targetExponent (totalExponent (m * 2 ^ a / 2 ^ 52) t) =
        max ((m.log2 + a - 52 : Nat) + t - 52) (-1074) := by
      rw [targetExponent_eq, log2_div_two_pow, log2_mul_two_pow hm]
    obtain ⟨n, hn⟩ : ∃ n : Nat, max ((m.log2 + a - 52 : Nat) + t - 52) (-1074) = t + n :=
      Int.le.dest (by omega) |>.imp fun _ h => h.symm
    obtain ⟨r, hr, hdenotes⟩ := denotes_roundWithAccuracy s (by positivity) (by omega)
      (htarget.trans hn)
    obtain ⟨i, hi⟩ : ∃ i : Nat, i = (t + 1074).toNat := ⟨_, rfl⟩
    rw [show (t + n + 1074).toNat = n + i by omega] at hdenotes
    have hnear : Nearest (m * 2 ^ (e + 1074).toNat) (2 * 2 ^ (n + i)) r :=
      nearest_half_units (by omega) hr
    have hhalf := nearest_two_of_nearest hnear (by
      intro hpos
      rw [← pow_succ']
      exact (pow_dvd_pow 2 (by omega)).mul_left _)
    refine ⟨s.apply (r * 2 ^ (n + i)), ?_, ?_⟩
    . cases s
      . exact hhalf.neg
      . exact hhalf
    . have hsign : s / .positive = s := by cases s <;> rfl
      rw [UnpackedFloat.div, divCore_two hlog he ht ha, hsign]
      exact hdenotes

end Operations

section Compare

variable {f g : UnpackedFloat} {x y : Int}

theorem lt_of_exponent_lt {m m' : Nat} {e e' : Int} (hm : m < 2 ^ 53) (he : -1074 ≤ e)
    (hlow : 2 ^ 52 ≤ m' ∨ e' = -1074) (hlt : e < e') :
    m * 2 ^ (e + 1074).toNat < m' * 2 ^ (e' + 1074).toNat := by
  have hm' : 2 ^ 52 ≤ m' := hlow.resolve_right (by omega)
  calc m * 2 ^ (e + 1074).toNat
    _ < 2 ^ 53 * 2 ^ (e + 1074).toNat := Nat.mul_lt_mul_of_pos_right hm (by positivity)
    _ = 2 ^ 52 * 2 ^ ((e + 1074).toNat + 1) := by ring
    _ ≤ m' * 2 ^ (e' + 1074).toNat :=
      Nat.mul_le_mul hm' (Nat.pow_le_pow_right (by decide) (by omega))

theorem compare_magnitudes {s s' : Sign} {m m' : Nat} {e e' : Int} {hm : 0 < m} {hm' : 0 < m'}
    (h : Canonical (.finite s m e hm)) (h' : Canonical (.finite s' m' e' hm')) :
    (compare e e').then (compare m m') =
      compare (m * 2 ^ (e + 1074).toNat : Int) (m' * 2 ^ (e' + 1074).toNat) := by
  obtain ⟨hlt, he, hlow⟩ := h
  obtain ⟨hlt', he', hlow'⟩ := h'
  cases hcmp : compare e e' with
  | lt =>
    have := lt_of_exponent_lt hlt he hlow' (Int.compare_eq_lt.mp hcmp)
    exact (Int.compare_eq_lt.mpr (by exact_mod_cast this)).symm
  | eq =>
    obtain rfl := Int.compare_eq_eq.mp hcmp
    have hpos : 0 < 2 ^ (e + 1074).toNat := by positivity
    change compare m m' = _
    cases hcmp' : compare m m' with
    | lt =>
      have := Nat.mul_lt_mul_of_pos_right (Nat.compare_eq_lt.mp hcmp') hpos
      exact (Int.compare_eq_lt.mpr (by exact_mod_cast this)).symm
    | eq =>
      rw [Nat.compare_eq_eq.mp hcmp']
      exact (Int.compare_eq_eq.mpr rfl).symm
    | gt =>
      have := Nat.mul_lt_mul_of_pos_right (Nat.compare_eq_gt.mp hcmp') hpos
      exact (Int.compare_eq_gt.mpr (by exact_mod_cast this)).symm
  | gt =>
    have := lt_of_exponent_lt hlt' he' hlow (Int.compare_eq_gt.mp hcmp)
    exact (Int.compare_eq_gt.mpr (by exact_mod_cast this)).symm

theorem compare_neg_neg (a b : Int) : compare (-a) (-b) = (compare a b).swap := by
  rw [Int.compare_swap, Int.compare_eq_ite_lt, Int.compare_eq_ite_lt]
  simp only [neg_lt_neg_iff]

theorem compare_eq (hf : Denotes f x) (hg : Denotes g y) :
    f.compare g = some (compare x y) := by
  obtain ⟨s, rfl, rfl⟩ | ⟨s, m, e, hm, rfl, hcanonical, rfl⟩ := hf.cases <;>
    obtain ⟨s', rfl, rfl⟩ | ⟨s', m', e', hm', rfl, hcanonical', rfl⟩ := hg.cases
  . rfl
  . have hpos : (0 : Int) < m' * 2 ^ (e' + 1074).toNat := by positivity
    cases s' with
    | negative => exact congrArg some (Int.compare_eq_gt.mpr (neg_neg_of_pos hpos)).symm
    | positive => exact congrArg some (Int.compare_eq_lt.mpr hpos).symm
  . have hpos : (0 : Int) < m * 2 ^ (e + 1074).toNat := by positivity
    cases s with
    | negative => exact congrArg some (Int.compare_eq_lt.mpr (neg_neg_of_pos hpos)).symm
    | positive => exact congrArg some (Int.compare_eq_gt.mpr hpos).symm
  . have hpos : (0 : Int) < m * 2 ^ (e + 1074).toNat := by positivity
    have hpos' : (0 : Int) < m' * 2 ^ (e' + 1074).toNat := by positivity
    have hcmp := compare_magnitudes hcanonical hcanonical'
    cases s with
    | negative =>
      cases s' with
      | negative =>
        exact congrArg some ((congrArg Ordering.swap hcmp).trans (compare_neg_neg _ _).symm)
      | positive =>
        have hlt := (neg_neg_of_pos hpos).trans hpos'
        exact congrArg some (Int.compare_eq_lt.mpr hlt).symm
    | positive =>
      cases s' with
      | negative =>
        have hgt := (neg_neg_of_pos hpos').trans hpos
        exact congrArg some (Int.compare_eq_gt.mpr hgt).symm
      | positive => exact congrArg some hcmp

end Compare

end CodeAppraisal.Binary64
