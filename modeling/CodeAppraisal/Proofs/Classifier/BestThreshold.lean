import CodeAppraisal.Proofs.Classifier.Impurity

/-!
This module shows that one pass over the values of a feature finds what trying out every threshold
would find: the one of least impurity, half way in the lowest gap where that is reached.
-/
namespace CodeAppraisal.Classifier

open Quantity DecisionTree

section Scan

variable {α : Type} [Quantity α]

theorem labels_filter_perm (samples : List (Sample α)) (f : Nat) (p : α → Bool) :
    ((samples.filter fun s => p (feature s.row f)).map (·.label)).Perm
      (((valuesOf samples f).filter fun v => p v.1).map (·.2)) := by
  have hperm := ((valuesOf_perm samples f).filter fun v => p v.1).map (·.2)
  simpa [List.filter_map, Function.comp_def] using hperm.symm

theorem exists_neighbours_cons {β : Type} {v w : β} {rest : List β}
    {P : List β → β → β → List β → Prop} :
    (∃ front here next after, v :: w :: rest = front ++ here :: next :: after ∧
      P front here next after) ↔
    P [] v w rest ∨ ∃ front here next after, w :: rest = front ++ here :: next :: after ∧
      P (v :: front) here next after := by
  constructor
  . rintro ⟨front, here, next, after, heq, h⟩
    cases front with
    | nil =>
      injection heq with hv heq
      injection heq with hw hrest
      exact .inl (hv ▸ hw ▸ hrest ▸ h)
    | cons u front =>
      injection heq with hv heq
      exact .inr ⟨front, here, next, after, heq, hv ▸ h⟩
  . rintro (h | ⟨front, here, next, after, heq, h⟩)
    . exact ⟨[], v, w, rest, rfl, h⟩
    . exact ⟨v :: front, here, next, after, by rw [heq]; rfl, h⟩

theorem mem_splitsOf_iff {f classes : Nat} {before : List Nat} {values : List (α × Nat)}
    {s : Split α} :
    s ∈ splitsOf f (histogram classes before) (histogram classes (values.map (·.2))) values ↔
      ∃ front here next after, values = front ++ here :: next :: after ∧
        le next.1 here.1 = false ∧ s = ⟨f, midpoint here.1 next.1, splitImpurity
          (histogram classes ((front ++ [here]).map (·.2) ++ before))
          (histogram classes ((next :: after).map (·.2)))⟩ := by
  induction values generalizing before with
  | nil => simp [splitsOf]
  | cons v values ih =>
    cases values with
    | nil =>
      constructor
      . intro h
        cases h
      . rintro ⟨front, here, next, after, heq, _⟩
        have := congrArg List.length heq
        simp at this
        omega
    | cons w rest =>
      have hbefore : ∀ (front : List (α × Nat)) (here : α × Nat),
          histogram classes (((v :: front) ++ [here]).map (·.2) ++ before) =
            histogram classes ((front ++ [here]).map (·.2) ++ v.2 :: before) :=
        fun _ _ => histogram_perm List.perm_middle.symm
      rw [exists_neighbours_cons]
      simp only [hbefore]
      rw [← ih, splitsOf, modify_histogram, List.map_cons, modify_histogram_cons]
      split
      . next hle => simp [hle]
      . next hgap => simp [hgap]

end Scan

variable {K : Type} [Field K] [LinearOrder K] [ElementaryFunctions K]

structure Gap (samples : List (Sample K)) (f : Nat) (here next : K) : Prop where
  here_mem : ∃ s ∈ samples, feature s.row f = here
  next_mem : ∃ s ∈ samples, feature s.row f = next
  lt : here < next
  le_or_le : ∀ s ∈ samples, feature s.row f ≤ here ∨ next ≤ feature s.row f

def Separates (samples : List (Sample K)) (f : Nat) (t : K) : Prop :=
  (∃ s ∈ samples, feature s.row f ≤ t) ∧ ∃ s ∈ samples, t < feature s.row f

section Order

theorem exists_value_iff {samples : List (Sample K)} {f : Nat} (p : K → Prop) :
    (∃ v ∈ valuesOf samples f, p v.1) ↔ ∃ s ∈ samples, p (feature s.row f) := by
  simp [(valuesOf_perm samples f).mem_iff]

theorem forall_value_iff {samples : List (Sample K)} {f : Nat} (p : K → Prop) :
    (∀ v ∈ valuesOf samples f, p v.1) ↔ ∀ s ∈ samples, p (feature s.row f) := by
  simp [(valuesOf_perm samples f).mem_iff]

omit [Field K] [ElementaryFunctions K] in
theorem exists_neighbours {values : List (K × Nat)} {t : K}
    (hsorted : values.Pairwise fun a b => a.1 ≤ b.1) (hlow : ∃ v ∈ values, v.1 ≤ t)
    (hhigh : ∃ v ∈ values, t < v.1) :
    ∃ front here next after, values = front ++ here :: next :: after ∧
      here.1 ≤ t ∧ t < next.1 := by
  induction values with
  | nil => simp at hlow
  | cons v values ih =>
    cases values with
    | nil =>
      simp only [List.mem_singleton, exists_eq_left] at hlow hhigh
      exact absurd hhigh (not_lt.mpr hlow)
    | cons w rest =>
      rw [List.pairwise_cons] at hsorted
      obtain ⟨hfirst, hrest⟩ := hsorted
      rw [exists_neighbours_cons]
      by_cases hw : t < w.1
      . -- all but the first value are above the threshold
        left
        obtain ⟨u, hu, hle⟩ := hlow
        cases List.mem_cons.mp hu with
        | inl heq => exact ⟨heq ▸ hle, hw⟩
        | inr hmem =>
          have hwu : w.1 ≤ u.1 := by
            cases List.mem_cons.mp hmem with
            | inl heq => rw [heq]
            | inr hlater => exact (List.pairwise_cons.mp hrest).1 u hlater
          exact absurd (hw.trans_le (hwu.trans hle)) (lt_irrefl t)
      . right
        apply ih hrest ⟨w, List.mem_cons_self, not_lt.mp hw⟩
        obtain ⟨u, hu, hlt⟩ := hhigh
        cases List.mem_cons.mp hu with
        | inl heq =>
          have := hfirst w List.mem_cons_self
          exact absurd (heq ▸ hlt) (not_lt.mpr (this.trans (not_lt.mp hw)))
        | inr hmem => exact ⟨u, hmem, hlt⟩

variable {samples : List (Sample K)} {f : Nat} {front after : List (K × Nat)} {here next : K × Nat}
  {t : K}

theorem le_of_neighbours (h : valuesOf samples f = front ++ here :: next :: after) :
    (∀ v ∈ front ++ [here], v.1 ≤ here.1) ∧ ∀ v ∈ next :: after, next.1 ≤ v.1 := by
  have hsorted := valuesOf_pairwise samples f
  rw [h, List.pairwise_append, List.pairwise_cons, List.pairwise_cons] at hsorted
  obtain ⟨_, ⟨_, hafter, _⟩, hfront⟩ := hsorted
  constructor
  . intro v hv
    cases List.mem_append.mp hv with
    | inl hfst => exact hfront v hfst here List.mem_cons_self
    | inr hlast => rw [List.mem_singleton.mp hlast]
  . intro v hv
    cases List.mem_cons.mp hv with
    | inl heq => rw [heq]
    | inr hlater => exact hafter v hlater

theorem labels_perm (h : valuesOf samples f = front ++ here :: next :: after)
    (hle : here.1 ≤ t) (hlt : t < next.1) :
    ((upTo samples f t).map (·.label)).Perm ((front ++ [here]).map (·.2)) ∧
      ((above samples f t).map (·.label)).Perm ((next :: after).map (·.2)) := by
  obtain ⟨hfront, hafter⟩ := le_of_neighbours h
  have hparts : valuesOf samples f = (front ++ [here]) ++ next :: after := by simp [h]
  have hlow : (valuesOf samples f).filter (fun v => v.1 ≤ t) = front ++ [here] := by
    rw [hparts, List.filter_append, List.filter_eq_self.mpr, List.filter_eq_nil_iff.mpr,
      List.append_nil]
    . intro v hv
      simpa using hlt.trans_le (hafter v hv)
    . intro v hv
      simpa using (hfront v hv).trans hle
  have hhigh : (valuesOf samples f).filter (fun v => t < v.1) = next :: after := by
    rw [hparts, List.filter_append, List.filter_eq_nil_iff.mpr, List.filter_eq_self.mpr,
      List.nil_append]
    . intro v hv
      simpa using hlt.trans_le (hafter v hv)
    . intro v hv
      simpa using (hfront v hv).trans hle
  rw [← hlow, ← hhigh]
  exact ⟨labels_filter_perm samples f fun x => x ≤ t, labels_filter_perm samples f fun x => t < x⟩

theorem le_or_le_of_neighbours (h : valuesOf samples f = front ++ here :: next :: after) :
    ∀ v ∈ valuesOf samples f, v.1 ≤ here.1 ∨ next.1 ≤ v.1 := by
  obtain ⟨hfront, hafter⟩ := le_of_neighbours h
  intro v hv
  rw [h, List.append_cons, List.mem_append] at hv
  exact hv.imp (hfront v) (hafter v)

theorem gap_iff {low high : K} : Gap samples f low high ↔
    ∃ front here next after, valuesOf samples f = front ++ here :: next :: after ∧
      here.1 = low ∧ next.1 = high ∧ low < high := by
  constructor
  . intro h
    obtain ⟨l, hl, rfl⟩ := (exists_value_iff (· = low)).mpr h.here_mem
    obtain ⟨r, hr, rfl⟩ := (exists_value_iff (· = high)).mpr h.next_mem
    have hgap := (forall_value_iff fun x => x ≤ l.1 ∨ r.1 ≤ x).mpr h.le_or_le
    obtain ⟨front, here, next, after, heq, hle, hlt⟩ :=
      exists_neighbours (valuesOf_pairwise samples f) ⟨l, hl, le_rfl⟩ ⟨r, hr, h.lt⟩
    have hsides := le_or_le_of_neighbours heq
    refine ⟨front, here, next, after, heq, ?_, ?_, h.lt⟩
    . exact hle.antisymm ((hsides l hl).resolve_right (not_le.mpr hlt))
    . have hnext := (hgap next (by simp [heq])).resolve_left (not_le.mpr hlt)
      have hhere : ¬ r.1 ≤ here.1 := not_le.mpr (hle.trans_lt h.lt)
      exact ((hsides r hr).resolve_left hhere).antisymm hnext
  . rintro ⟨front, here, next, after, heq, rfl, rfl, hlt⟩
    constructor
    . exact (exists_value_iff (· = here.1)).mp ⟨here, by simp [heq], rfl⟩
    . exact (exists_value_iff (· = next.1)).mp ⟨next, by simp [heq], rfl⟩
    . exact hlt
    . exact (forall_value_iff fun x => x ≤ here.1 ∨ next.1 ≤ x).mp (le_or_le_of_neighbours heq)

end Order

section Gaps

variable {samples : List (Sample K)} {f : Nat} {low high t : K}

theorem Separates.exists_gap (h : Separates samples f t) :
    ∃ low high, Gap samples f low high ∧ low ≤ t ∧ t < high := by
  obtain ⟨front, here, next, after, heq, hle, hlt⟩ := exists_neighbours
    (valuesOf_pairwise samples f) ((exists_value_iff (· ≤ t)).mpr h.1)
    ((exists_value_iff (t < ·)).mpr h.2)
  exact ⟨here.1, next.1, gap_iff.mpr ⟨front, here, next, after, heq, rfl, rfl, hle.trans_lt hlt⟩,
    hle, hlt⟩

theorem Gap.separates (h : Gap samples f low high) (hle : low ≤ t) (hlt : t < high) :
    Separates samples f t := by
  obtain ⟨l, hl, hlow⟩ := h.here_mem
  obtain ⟨r, hr, hhigh⟩ := h.next_mem
  exact ⟨⟨l, hl, hlow.trans_le hle⟩, r, hr, hlt.trans_eq hhigh.symm⟩

theorem Separates.ne_nil (h : Separates samples f t) :
    upTo samples f t ≠ [] ∧ above samples f t ≠ [] := by
  obtain ⟨⟨l, hl, hle⟩, r, hr, hlt⟩ := h
  exact ⟨List.ne_nil_of_mem (List.mem_filter.mpr ⟨hl, by simpa using hle⟩),
    List.ne_nil_of_mem (List.mem_filter.mpr ⟨hr, by simpa using hlt⟩)⟩

theorem Gap.high_unique {high' : K} (h : Gap samples f low high) (h' : Gap samples f low high') :
    high = high' := by
  have hle : ∀ {a b : K}, Gap samples f low a → Gap samples f low b → a ≤ b := by
    intro a b ha hb
    obtain ⟨s, hs, rfl⟩ := hb.next_mem
    exact (ha.le_or_le s hs).resolve_left (not_le.mpr hb.lt)
  exact (hle h h').antisymm (hle h' h)

theorem Gap.impurityAt_eq (h : Gap samples f low high) (hle : low ≤ t) (hlt : t < high)
    (classes : Nat) : impurityAt classes samples f t = impurityAt classes samples f low := by
  have hside : ∀ s ∈ samples, feature s.row f ≤ t ↔ feature s.row f ≤ low := by
    intro s hs
    constructor
    . intro hst
      exact (h.le_or_le s hs).resolve_right (not_le.mpr (hst.trans_lt hlt))
    . exact fun hlow => hlow.trans hle
  have hupTo : upTo samples f t = upTo samples f low :=
    List.filter_congr fun s hs => decide_eq_decide.mpr (hside s hs)
  have habove : above samples f t = above samples f low :=
    List.filter_congr fun s hs => decide_eq_decide.mpr
      (by rw [← not_le, ← not_le, hside s hs])
  unfold impurityAt
  rw [hupTo, habove]

end Gaps

section Exact

variable [IsStrictOrderedRing K]

theorem midpoint_eq (low high : K) : midpoint low high = (low + high) / 2 := by
  unfold midpoint
  norm_num
  ring

theorem splitsOf_pairwise {f : Nat} {left right : List Nat} {values : List (K × Nat)}
    (hsorted : values.Pairwise fun a b => a.1 ≤ b.1) :
    (splitsOf f left right values).Pairwise fun a b => a.threshold < b.threshold := by
  fun_induction splitsOf f left right values with
  | case1 left right here label next label' rest left' right' later hle ih =>
    exact ih (List.pairwise_cons.mp hsorted).2
  | case2 left right here label next label' rest left' right' later hgap ih =>
    have hrest := (List.pairwise_cons.mp hsorted).2
    rw [List.pairwise_cons]
    refine ⟨?_, ih hrest⟩
    intro s hs
    obtain ⟨_, front, here', next', after, hvalues, hgap', hthreshold⟩ := mem_splitsOf hs
    simp only [le_eq_decide, decide_eq_true_eq, decide_eq_false_iff_not, not_le] at hgap hgap'
    have hmem : here' ∈ (next, label') :: rest := by simp [hvalues]
    have hnext : next ≤ here'.1 := by
      cases List.mem_cons.mp hmem with
      | inl heq => rw [heq]
      | inr hlater => exact (List.pairwise_cons.mp hrest).1 here' hlater
    rw [hthreshold]
    exact (midpoint_lt hgap).trans_le (hnext.trans (le_midpoint hgap'))
  | case3 => exact .nil

theorem mem_splitsOn_iff {classes f : Nat} {samples : List (Sample K)} {s : Split K}
    (hlabels : ∀ s ∈ samples, s.label < classes) :
    s ∈ splitsOn classes samples f ↔ ∃ low high, Gap samples f low high ∧
      s = ⟨f, midpoint low high, impurityAt classes samples f (midpoint low high)⟩ := by
  have hcounted : ∀ {front after : List (K × Nat)} {here next : K × Nat},
      valuesOf samples f = front ++ here :: next :: after → here.1 < next.1 →
        splitImpurity (histogram classes ((front ++ [here]).map (·.2) ++ []))
          (histogram classes ((next :: after).map (·.2))) =
            impurityAt classes samples f (midpoint here.1 next.1) := by
    intro front after here next heq hlt
    obtain ⟨hleft, hright⟩ := labels_perm heq (le_midpoint hlt) (midpoint_lt hlt)
    have hgap := gap_iff.mpr ⟨front, here, next, after, heq, rfl, rfl, hlt⟩
    obtain ⟨hne, hne'⟩ := (hgap.separates (le_midpoint hlt) (midpoint_lt hlt)).ne_nil
    rw [List.append_nil, ← histogram_perm hleft, ← histogram_perm hright,
      splitImpurity_histogram hlabels hne hne']
  rw [splitsOn_eq, mem_splitsOf_iff]
  simp only [le_eq_decide, decide_eq_false_iff_not, not_le, gap_iff]
  constructor
  . rintro ⟨front, here, next, after, heq, hlt, rfl⟩
    exact ⟨here.1, next.1, ⟨front, here, next, after, heq, rfl, rfl, hlt⟩,
      by rw [hcounted heq hlt]⟩
  . rintro ⟨_, _, ⟨front, here, next, after, heq, rfl, rfl, hlt⟩, rfl⟩
    exact ⟨front, here, next, after, heq, hlt, by rw [hcounted heq hlt]⟩

omit [IsStrictOrderedRing K] in
theorem Split.first_of_best {splits : List (Split K)} {s : Split K} (h : best splits = some s) :
    ∃ before after, splits = before ++ s :: after ∧ (∀ b ∈ before, s.impurity < b.impurity) ∧
      ∀ a ∈ after, s.impurity ≤ a.impurity := by
  induction splits using List.reverseRecOn generalizing s with
  | nil => cases h
  | append_singleton splits new ih =>
    rw [best, List.foldl_concat, ← best] at h
    cases hold : best splits with
    | none =>
      rw [hold] at h
      injection h with h
      exact ⟨[], [], by simp [ne_nil_of_best_eq_none hold, h], by simp, by simp⟩
    | some old =>
      obtain ⟨before, after, rfl, hbefore, hafter⟩ := ih hold
      rw [hold, better] at h
      simp only [lt_eq_decide, decide_eq_true_eq] at h
      split at h
      . next hlt =>
        injection h with h
        subst h
        refine ⟨before ++ old :: after, [], rfl, ?_, by simp⟩
        intro b hb
        rw [List.mem_append, List.mem_cons] at hb
        obtain hb | rfl | hb := hb
        . exact hlt.trans (hbefore b hb)
        . exact hlt
        . exact hlt.trans_le (hafter b hb)
      . next hge =>
        injection h with h
        subst h
        refine ⟨before, after ++ [new], by simp, hbefore, ?_⟩
        intro a ha
        rw [List.mem_append, List.mem_singleton] at ha
        obtain ha | rfl := ha
        . exact hafter a ha
        . exact not_lt.mp hge

omit [IsStrictOrderedRing K] in
theorem Split.le_of_best {splits : List (Split K)} {s : Split K} (h : best splits = some s)
    (hsorted : splits.Pairwise fun a b => a.threshold < b.threshold) :
    ∀ other ∈ splits, s.impurity ≤ other.impurity ∧
      (other.impurity = s.impurity → s.threshold ≤ other.threshold) := by
  obtain ⟨before, after, rfl, hbefore, hafter⟩ := first_of_best h
  intro other hother
  rw [List.mem_append, List.mem_cons] at hother
  obtain hother | rfl | hother := hother
  . have hlt := hbefore other hother
    exact ⟨hlt.le, fun heq => absurd heq hlt.ne'⟩
  . exact ⟨le_rfl, fun _ => le_rfl⟩
  . have hlater := (List.pairwise_cons.mp (List.pairwise_append.mp hsorted).2.1).1 other hother
    exact ⟨hafter other hother, fun _ => hlater.le⟩

theorem Gap.le_of_midpoint_le {samples : List (Sample K)} {f : Nat} {low high low' high' : K}
    (h : Gap samples f low high) (h' : Gap samples f low' high')
    (hle : midpoint low high ≤ midpoint low' high') : low ≤ low' := by
  obtain ⟨s, hs, hlow⟩ := h.here_mem
  cases h'.le_or_le s hs with
  | inl hbelow => rwa [hlow] at hbelow
  | inr habove =>
    -- the other gap would lie below this one
    have := (midpoint_lt h'.lt).trans_le (hlow ▸ habove)
    exact absurd ((le_midpoint h.lt).trans hle) (not_le.mpr this)

/-- A split of least impurity among those at all thresholds that part the samples, half way in the
lowest gap in which that is reached. -/
structure Split.IsBest (classes : Nat) (samples : List (Sample K)) (f : Nat) (split : Split K) :
    Prop where
  feature_eq : split.feature = f
  separates : Separates samples f split.threshold
  impurity_eq : split.impurity = impurityAt classes samples f split.threshold
  impurity_le : ∀ t, Separates samples f t → split.impurity ≤ impurityAt classes samples f t
  lowest : ∃ low high, Gap samples f low high ∧ split.threshold = (low + high) / 2 ∧
    ∀ low' high', Gap samples f low' high' →
      impurityAt classes samples f ((low' + high') / 2) = split.impurity → low ≤ low'

section Best

variable {classes f : Nat} {samples : List (Sample K)}

theorem isBest_of_bestSplitOn (hlabels : ∀ s ∈ samples, s.label < classes) {split : Split K}
    (h : bestSplitOn classes samples f = some split) : split.IsBest classes samples f := by
  obtain ⟨low, high, hgap, hsplit⟩ := (mem_splitsOn_iff hlabels).mp (Split.best_mem h)
  have hsorted : (splitsOn classes samples f).Pairwise fun a b => a.threshold < b.threshold := by
    rw [splitsOn_eq]
    exact splitsOf_pairwise (valuesOf_pairwise samples f)
  -- the splits in the other gaps are among those that this one was chosen from
  have hleast : ∀ {low' high' : K}, Gap samples f low' high' →
      split.impurity ≤ impurityAt classes samples f (midpoint low' high') ∧
        (impurityAt classes samples f (midpoint low' high') = split.impurity →
          split.threshold ≤ midpoint low' high') :=
    fun hgap' => Split.le_of_best h hsorted _ ((mem_splitsOn_iff hlabels).mpr ⟨_, _, hgap', rfl⟩)
  subst hsplit
  constructor
  case feature_eq => rfl
  case separates => exact hgap.separates (le_midpoint hgap.lt) (midpoint_lt hgap.lt)
  case impurity_eq => rfl
  case impurity_le =>
    intro t ht
    obtain ⟨low', high', hgap', hle, hlt⟩ := ht.exists_gap
    rw [hgap'.impurityAt_eq hle hlt,
      ← hgap'.impurityAt_eq (le_midpoint hgap'.lt) (midpoint_lt hgap'.lt)]
    exact (hleast hgap').1
  case lowest =>
    refine ⟨low, high, hgap, midpoint_eq low high, ?_⟩
    intro low' high' hgap' heq
    rw [← midpoint_eq] at heq
    exact hgap.le_of_midpoint_le hgap' ((hleast hgap').2 heq)

omit [IsStrictOrderedRing K] in
theorem Split.IsBest.unique {split split' : Split K} (h : split.IsBest classes samples f)
    (h' : split'.IsBest classes samples f) : split = split' := by
  have himpurity : split.impurity = split'.impurity := by
    apply le_antisymm
    . rw [h'.impurity_eq]
      exact h.impurity_le _ h'.separates
    . rw [h.impurity_eq]
      exact h'.impurity_le _ h.separates
  obtain ⟨low, high, hgap, hthreshold, hlowest⟩ := h.lowest
  obtain ⟨low', high', hgap', hthreshold', hlowest'⟩ := h'.lowest
  have hlow : low = low' := by
    apply le_antisymm
    . apply hlowest low' high' hgap'
      rw [← hthreshold', ← h'.impurity_eq, himpurity]
    . apply hlowest' low high hgap
      rw [← hthreshold, ← h.impurity_eq, himpurity]
  subst hlow
  have hhigh : high = high' := hgap.high_unique hgap'
  subst hhigh
  cases split
  cases split'
  simp only [mk.injEq]
  exact ⟨h.feature_eq.trans h'.feature_eq.symm, hthreshold.trans hthreshold'.symm, himpurity⟩

omit [IsStrictOrderedRing K] in
theorem bestSplitOn_eq_none_iff : bestSplitOn classes samples f = none ↔
    ∀ s ∈ samples, ∀ s' ∈ samples, feature s.row f = feature s'.row f := by
  constructor
  . intro h s hs s' hs'
    exact feature_eq_of_splitsOn (Split.ne_nil_of_best_eq_none h) hs hs'
  . intro h
    by_contra hsome
    obtain ⟨split, hsplit⟩ := Option.ne_none_iff_exists'.mp hsome
    obtain ⟨_, front, here, next, after, heq, hgap, _⟩ := mem_splitsOn (Split.best_mem hsplit)
    have hhere : here ∈ valuesOf samples f := by simp [heq]
    have hnext : next ∈ valuesOf samples f := by simp [heq]
    obtain ⟨s, hs, hlow⟩ := (exists_value_iff (· = here.1)).mp ⟨here, hhere, rfl⟩
    obtain ⟨s', hs', hhigh⟩ := (exists_value_iff (· = next.1)).mp ⟨next, hnext, rfl⟩
    simp [← hlow, ← hhigh, h s' hs' s hs] at hgap

theorem bestSplitOn_eq_some_iff (hlabels : ∀ s ∈ samples, s.label < classes) {split : Split K} :
    bestSplitOn classes samples f = some split ↔ split.IsBest classes samples f := by
  constructor
  . exact isBest_of_bestSplitOn hlabels
  . intro h
    cases hfound : bestSplitOn classes samples f with
    | none =>
      obtain ⟨⟨l, hl, hle⟩, r, hr, hlt⟩ := h.separates
      rw [bestSplitOn_eq_none_iff.mp hfound l hl r hr] at hle
      exact absurd hlt (not_lt.mpr hle)
    | some found => rw [(isBest_of_bestSplitOn hlabels hfound).unique h]

end Best

section Perm

variable {classes f : Nat} {samples samples' : List (Sample K)}

omit [IsStrictOrderedRing K] in
theorem impurityAt_perm (h : samples.Perm samples') (t : K) :
    impurityAt classes samples f t = impurityAt classes samples' f t := by
  have hside : ∀ {side side' : List (Sample K)}, side.Perm side' →
      (side.length : K) * impurity classes side = side'.length * impurity classes side' := by
    intro side side' hperm
    simp only [impurity, fractions, hperm.length_eq, hperm.countP_eq]
  unfold impurityAt upTo above
  rw [hside (h.filter _), hside (h.filter _), h.length_eq]

omit [IsStrictOrderedRing K] in
theorem Separates.perm {t : K} (ht : Separates samples f t) (h : samples.Perm samples') :
    Separates samples' f t := by
  simpa only [Separates, h.mem_iff] using ht

omit [IsStrictOrderedRing K] in
theorem Gap.perm {low high : K} (hgap : Gap samples f low high) (h : samples.Perm samples') :
    Gap samples' f low high := by
  constructor
  . simpa only [h.mem_iff] using hgap.here_mem
  . simpa only [h.mem_iff] using hgap.next_mem
  . exact hgap.lt
  . simpa only [h.mem_iff] using hgap.le_or_le

omit [IsStrictOrderedRing K] in
theorem Split.IsBest.perm {split : Split K} (hbest : split.IsBest classes samples f)
    (h : samples.Perm samples') : split.IsBest classes samples' f := by
  constructor
  case feature_eq => exact hbest.feature_eq
  case separates => exact hbest.separates.perm h
  case impurity_eq => rw [hbest.impurity_eq, impurityAt_perm h]
  case impurity_le =>
    intro t ht
    rw [← impurityAt_perm h]
    exact hbest.impurity_le t (ht.perm h.symm)
  case lowest =>
    obtain ⟨low, high, hgap, hthreshold, hlowest⟩ := hbest.lowest
    refine ⟨low, high, hgap.perm h, hthreshold, ?_⟩
    intro low' high' hgap' heq
    rw [← impurityAt_perm h] at heq
    exact hlowest low' high' (hgap'.perm h.symm) heq

theorem bestSplitOn_perm (hlabels : ∀ s ∈ samples, s.label < classes)
    (h : samples.Perm samples') :
    bestSplitOn classes samples' f = bestSplitOn classes samples f := by
  have hlabels' : ∀ s ∈ samples', s.label < classes := fun s hs => hlabels s (h.mem_iff.mpr hs)
  cases hfound : bestSplitOn classes samples f with
  | none =>
    rw [bestSplitOn_eq_none_iff] at hfound ⊢
    simpa only [h.mem_iff] using hfound
  | some split =>
    rw [bestSplitOn_eq_some_iff hlabels']
    exact (isBest_of_bestSplitOn hlabels hfound).perm h

end Perm

end Exact

end CodeAppraisal.Classifier
