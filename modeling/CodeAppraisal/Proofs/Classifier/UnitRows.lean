import CodeAppraisal.Proofs.Classifier.Ranking
import CodeAppraisal.Proofs.ExactQuantity

/-!
This module shows what the rows of a fitted vectorizer are over exact numbers: of length one, with a
value for just the terms that their document has.
-/
namespace CodeAppraisal.Classifier

open Quantity

theorem updateAlong_eq_zipWith {α β : Type} {change : α → β → α} {xs : List α} {ys : List β}
    (h : xs.length = ys.length) : updateAlong change xs ys = List.zipWith change xs ys := by
  fun_induction updateAlong change xs ys with
  | case1 x xs y ys ih => rw [List.zipWith_cons_cons, ih (by simpa using h)]
  | case2 xs ys hcons =>
    cases xs with
    | nil => rfl
    | cons x xs =>
      cases ys with
      | nil => cases h
      | cons y ys => exact absurd rfl (hcons x xs y ys rfl)

namespace Tally

theorem getElem?_documents {documents : List (List String)} {t : String}
    (h : ∃ terms ∈ documents, t ∈ terms) :
    (ofDocuments documents).documents[t]? = some (documents.countP (t ∈ ·)) := by
  have hpos : 0 < documents.countP (t ∈ ·) := by simpa [List.countP_pos_iff] using h
  rw [← getD_documents, Std.TreeMap.getD_eq_getD_getElem?] at hpos ⊢
  cases hlookup : (ofDocuments documents).documents[t]? with
  | none =>
    rw [hlookup] at hpos
    cases hpos
  | some n => rfl

end Tally

namespace Vectorizer

theorem count_columnsOf {α : Type} {v : Vectorizer α} (h : v.Columns) {t : String} {c : Nat}
    (hc : v.vocabulary[t]? = some c) (terms : List String) :
    (v.columnsOf terms).count c = terms.count t := by
  induction terms with
  | nil => rfl
  | cons s terms ih =>
    rw [columnsOf] at ih ⊢
    rw [List.count_cons]
    by_cases hs : s = t
    . subst hs
      rw [List.filterMap_cons_some hc, List.count_cons_self, ih]
      simp
    . -- another term has another column
      have hother : v.vocabulary[s]? ≠ some c := by
        intro hsc
        obtain ⟨u, _, hu⟩ := h.column_used c (h.column_lt t c hc)
        apply hs
        rw [hu s hsc, hu t hc]
      cases hlookup : v.vocabulary[s]? with
      | none => simp [List.filterMap_cons_none hlookup, ih, hs]
      | some c' =>
        rw [hlookup, ne_eq, Option.some.injEq] at hother
        simp [List.filterMap_cons_some hlookup, ih, hs, hother]

theorem exists_document_of_mem {α : Type} [Quantity α] {v : Vectorizer α} {documents : List String}
    {t : String} (h : t ∈ (v.learned documents).vocabulary) :
    ∃ d ∈ documents, t ∈ termsOf v.lengths d := by
  have hranking := Tally.isRanking_ranked (documents.map (termsOf v.lengths))
  rw [← List.flatMap_def] at hranking
  rw [mem_vocabulary_learned hranking] at h
  have hmem := (hranking.mem_iff t).mp (List.mem_of_mem_take h)
  exact List.mem_flatMap.mp hmem

theorem Columns.exists_term {α : Type} {v : Vectorizer α} (h : v.Columns) {row : List α}
    (hlength : row.length = v.size) {x : α} (hx : x ∈ row) :
    ∃ (t : String) (c : Nat), v.vocabulary[t]? = some c ∧ row[c]? = some x := by
  obtain ⟨c, hc⟩ := List.mem_iff_getElem?.mp hx
  have hlt := (List.getElem?_eq_some_iff.mp hc).1
  rw [hlength] at hlt
  obtain ⟨t, ht, _⟩ := h.column_used c hlt
  exact ⟨t, c, ht, hc⟩

variable {K : Type} [Field K] [LinearOrder K] [IsStrictOrderedRing K] [ElementaryFunctions K]

theorem one_le_rarity [LawfulLogarithm K] {total n : Nat} (h : n ≤ total) :
    1 ≤ (rarity total n : K) := by
  have hcast : (n : K) ≤ total := by exact_mod_cast h
  have hratio : 1 ≤ ((1 : K) + total) / (1 + n) := by
    rw [le_div_iff₀ (by positivity)]
    linarith
  have hln := LawfulLogarithm.ln_le_ln one_pos hratio
  rw [LawfulLogarithm.ln_one] at hln
  simp only [rarity, ofNat_eq_cast, ln]
  norm_num
  exact hln

theorem one_le_of_mem_idf [LawfulLogarithm K] (v : Vectorizer K) (documents : List String) :
    ∀ w ∈ (v.learned documents).idf, 1 ≤ w := by
  intro w hw
  obtain ⟨t, _, rfl⟩ := List.mem_map.mp hw
  apply one_le_rarity
  rw [Tally.getD_documents, List.countP_map]
  exact List.countP_le_length

theorem getElem?_foldl_countColumn (columns : List Nat) (row : List K) (j : Nat) :
    (columns.foldl countColumn row)[j]? = row[j]?.map (· + (columns.count j : K)) := by
  induction columns generalizing row with
  | nil => simp
  | cons c columns ih =>
    rw [List.foldl_cons, ih, countColumn, List.getElem?_modify, List.count_cons]
    by_cases h : c = j
    . cases row[j]? with
      | none => rfl
      | some x =>
        simp only [h, Option.map_some, ↓reduceIte, beq_self_eq_true]
        push_cast
        norm_num
        ring
    . simp [h]

def weighed (v : Vectorizer K) (terms : List String) : List K :=
  updateAlong (· * ·) ((v.columnsOf terms).foldl countColumn (List.replicate v.size 0.0)) v.idf

omit [IsStrictOrderedRing K] in
theorem transform_eq {v : Vectorizer K} (h : v.size ≠ 0) (document : String) :
    v.transform document = .ok (normalized (v.weighed (termsOf v.lengths document))) := by
  unfold transform
  rw [if_neg (by rwa [isEmpty_iff_size])]
  rfl

theorem getElem?_weighed {v : Vectorizer K} (h : v.Columns) {t : String} {c : Nat}
    (hc : v.vocabulary[t]? = some c) (terms : List String) :
    ∃ w ∈ v.idf, (v.weighed terms)[c]? = some ((terms.count t : K) * w) := by
  have hlt : c < v.idf.length := by
    rw [h.idf_length]
    exact h.column_lt t c hc
  refine ⟨v.idf[c], List.getElem_mem hlt, ?_⟩
  rw [weighed, updateAlong_eq_zipWith, List.getElem?_zipWith, getElem?_foldl_countColumn,
    List.getElem?_replicate_of_lt (h.idf_length ▸ hlt), List.getElem?_eq_getElem hlt,
    count_columnsOf h hc]
  . norm_num
  . rw [length_foldl_countColumn, List.length_replicate, h.idf_length]

omit [IsStrictOrderedRing K] in
theorem length_weighed (v : Vectorizer K) (terms : List String) :
    (v.weighed terms).length = v.size := by
  rw [weighed, length_updateAlong, length_foldl_countColumn, List.length_replicate]

section Normalized

variable [LawfulRoot K]

theorem exists_norm (row : List K) : ∃ norm : K, 0 < norm ∧ normalized row = row.map (· / norm) ∧
    (∀ x ∈ row, x * x ≤ norm * norm) ∧
    ((∃ x ∈ row, x ≠ 0) → norm * norm = (row.map fun x => x * x).sum) := by
  have hsquare : ∀ y ∈ row.map fun x => x * x, 0 ≤ y := by
    intro y hy
    obtain ⟨x, _, rfl⟩ := List.mem_map.mp hy
    exact mul_self_nonneg x
  have hle : ∀ x ∈ row, x * x ≤ (row.map fun x => x * x).sum := by
    intro x hx
    exact List.single_le_sum hsquare _ (List.mem_map_of_mem hx)
  have hroot := LawfulRoot.sqrt_mul_sqrt (List.sum_nonneg hsquare)
  simp only [normalized, sum_eq_sum, lt_eq_decide, decide_eq_true_eq]
  split
  . next hpos =>
    refine ⟨_, ?_, rfl, ?_, fun _ => hroot⟩
    . norm_num at hpos
      exact hpos
    . intro x hx
      exact hroot.symm ▸ hle x hx
  . next hzero =>
    -- the squares add up to nothing, and so there are only zeros
    have hnorm : ElementaryFunctions.sqrt (row.map fun x => x * x).sum = 0 := by
      apply le_antisymm
      . norm_num at hzero
        exact hzero
      . exact LawfulRoot.sqrt_nonneg _
    rw [hnorm, mul_zero] at hroot
    have hall : ∀ x ∈ row, x = 0 := by
      intro x hx
      have hx := hle x hx
      rw [← hroot] at hx
      exact mul_self_eq_zero.mp (le_antisymm hx (mul_self_nonneg x))
    refine ⟨1, one_pos, by simp, ?_, ?_⟩
    . intro x hx
      simp [hall x hx]
    . rintro ⟨x, hx, hne⟩
      exact absurd (hall x hx) hne

theorem normalized_bounds {row : List K} (h : ∀ x ∈ row, 0 ≤ x) :
    ∀ x ∈ normalized row, 0 ≤ x ∧ x ≤ 1 := by
  obtain ⟨norm, hpos, heq, hle, _⟩ := exists_norm row
  rw [heq, List.forall_mem_map]
  intro x hx
  constructor
  . exact div_nonneg (h x hx) hpos.le
  . rw [div_le_one hpos]
    exact (mul_self_le_mul_self_iff (h x hx) hpos.le).mpr (hle x hx)

theorem getElem?_normalized {row : List K} {j : Nat} {x : K} (h : row[j]? = some x) :
    ∃ y, (normalized row)[j]? = some y ∧ (y = 0 ↔ x = 0) := by
  obtain ⟨norm, hpos, heq, _⟩ := exists_norm row
  refine ⟨x / norm, ?_, ?_⟩
  . rw [heq, List.getElem?_map, h, Option.map_some]
  . rw [div_eq_zero_iff, or_iff_left hpos.ne']

theorem sum_squares_normalized {row : List K} (h : ∃ x ∈ row, x ≠ 0) :
    ((normalized row).map fun x => x * x).sum = 1 := by
  obtain ⟨norm, hpos, heq, _, hsum⟩ := exists_norm row
  have hsquare : (fun x => x * x) ∘ (· / norm) = fun x : K => x * x * (norm * norm)⁻¹ := by
    funext x
    simp only [Function.comp_apply]
    field_simp
  rw [heq, List.map_map, hsquare, List.sum_map_mul_right, ← hsum h]
  exact mul_inv_cancel₀ (mul_pos hpos hpos).ne'

end Normalized

structure IsRowOf (v : Vectorizer K) (document : String) (row : List K) : Prop where
  length_eq : row.length = v.size
  bounds : ∀ x ∈ row, 0 ≤ x ∧ x ≤ 1
  entry : ∀ (t : String) (c : Nat), v.vocabulary[t]? = some c →
    ∃ x, row[c]? = some x ∧ (x ≠ 0 ↔ t ∈ termsOf v.lengths document)
  zero : (∀ t ∈ termsOf v.lengths document, t ∉ v.vocabulary) → ∀ x ∈ row, x = 0
  unit : (∃ t ∈ termsOf v.lengths document, t ∈ v.vocabulary) →
    (row.map fun x => x * x).sum = 1

theorem isRowOf_normalized [LawfulRoot K] {v : Vectorizer K} (hcolumns : v.Columns)
    (hidf : ∀ w ∈ v.idf, 1 ≤ w) (document : String) :
    IsRowOf v document (normalized (v.weighed (termsOf v.lengths document))) := by
  have hlength := length_weighed v (termsOf v.lengths document)
  -- the weights are positive, so a value is zero only where nothing has been counted
  have hweighed : ∀ (t : String) (c : Nat), v.vocabulary[t]? = some c →
      ∃ x, (v.weighed (termsOf v.lengths document))[c]? = some x ∧ 0 ≤ x ∧
        (x = 0 ↔ t ∉ termsOf v.lengths document) := by
    intro t c hc
    obtain ⟨w, hw, hx⟩ := getElem?_weighed hcolumns hc (termsOf v.lengths document)
    have hpos : 0 < w := one_pos.trans_le (hidf w hw)
    refine ⟨_, hx, by positivity, ?_⟩
    rw [mul_eq_zero, or_iff_left hpos.ne', Nat.cast_eq_zero, List.count_eq_zero]
  have hentry : ∀ (t : String) (c : Nat), v.vocabulary[t]? = some c →
      ∃ x, (normalized (v.weighed (termsOf v.lengths document)))[c]? = some x ∧
        (x ≠ 0 ↔ t ∈ termsOf v.lengths document) := by
    intro t c hc
    obtain ⟨x, hx, _, hiff⟩ := hweighed t c hc
    obtain ⟨y, hy, hzero⟩ := getElem?_normalized hx
    refine ⟨y, hy, ?_⟩
    rw [ne_eq, hzero, hiff, not_not]
  constructor
  case length_eq => rw [length_normalized, hlength]
  case bounds =>
    apply normalized_bounds
    intro x hx
    obtain ⟨t, c, hc, hx⟩ := hcolumns.exists_term hlength hx
    obtain ⟨y, hy, hnonneg, _⟩ := hweighed t c hc
    rw [hx, Option.some.injEq] at hy
    exact hy ▸ hnonneg
  case entry => exact hentry
  case zero =>
    intro hnone x hx
    obtain ⟨t, c, hc, hx⟩ := hcolumns.exists_term ((length_normalized _).trans hlength) hx
    obtain ⟨y, hy, hiff⟩ := hentry t c hc
    rw [hx, Option.some.injEq] at hy
    apply Decidable.byContradiction
    intro hne
    apply hnone t (hiff.mp (hy ▸ hne))
    exact Std.TreeMap.mem_iff_isSome_getElem?.mpr (by rw [hc, Option.isSome_some])
  case unit =>
    rintro ⟨t, hterms, hknown⟩
    obtain ⟨c, hc⟩ := Option.isSome_iff_exists.mp (Std.TreeMap.mem_iff_isSome_getElem?.mp hknown)
    obtain ⟨x, hx, _, hiff⟩ := hweighed t c hc
    apply sum_squares_normalized
    refine ⟨x, List.mem_of_getElem? hx, ?_⟩
    rw [ne_eq, hiff, not_not]
    exact hterms

variable {m : Type → Type} [Monad m] [LawfulMonad m] [GivesValues m]

/-- A fit counts for each term the documents that have it, of which there is one at least, so that
no weight is less than one and the rows are of length one. -/
theorem rows_of_fit [LawfulRoot K] [LawfulLogarithm K] {v v' : Vectorizer K}
    {documents : List String}
    (h : (fit documents : Fitting m (Vectorizer K) Unit).on v = pure (.ok (), v')) :
    (∀ t ∈ v'.vocabulary, ∃ n, n = documents.countP (fun d => t ∈ termsOf v.lengths d) ∧
      1 ≤ n ∧ n ≤ documents.length ∧
      (Tally.ofDocuments (documents.map (termsOf v.lengths))).documents[t]? = some n) ∧
    v'.Weighs documents ∧ (∀ w ∈ v'.idf, 1 ≤ w) ∧
    (∀ document row, v'.transform document = .ok row → IsRowOf v' document row) ∧
    (v.limit ≠ some 0 → ∀ document, ∃ row, v'.transform document = .ok row) := by
  obtain ⟨hlearnable, rfl⟩ := fit_on_ok_iff.mp h
  have hcolumns := learned_columns v documents
  have hidf := one_le_of_mem_idf (K := K) v documents
  refine ⟨?_, learned_weighs v documents, hidf, ?_, ?_⟩
  . intro t ht
    obtain ⟨d, hd, hterm⟩ := exists_document_of_mem ht
    refine ⟨_, rfl, ?_, List.countP_le_length, ?_⟩
    . apply List.countP_pos_iff.mpr
      exact ⟨d, hd, by simpa using hterm⟩
    . rw [Tally.getElem?_documents ⟨_, List.mem_map_of_mem hd, hterm⟩, List.countP_map]
      rfl
  . intro document row hrow
    have hsize : (v.learned documents).size ≠ 0 := by
      intro hsize
      rw [transform_of_size_eq hsize] at hrow
      cases hrow
    rw [transform_eq hsize, Except.ok.injEq] at hrow
    rw [← hrow]
    exact isRowOf_normalized hcolumns hidf document
  . intro hlimit document
    obtain ⟨row, hrow, _⟩ := transform_of_size_ne (size_learned_ne hlearnable hlimit) document
    exact ⟨row, hrow⟩

theorem rows_of_fit_two : ∃ (v : Vectorizer ℝ) (row : List ℝ),
    (fit (m := Id) ["common rare", "common"]).on (new none .single) = pure (.ok (), v) ∧
      (∀ w ∈ v.idf, 1 ≤ w) ∧ v.transform "Common zeta" = .ok row ∧
      (∀ x ∈ row, 0 ≤ x ∧ x ≤ 1) ∧ (row.map fun x => x * x).sum = 1 := by
  have hfit := @fit_on_of_learnable ℝ _ Id _ _ (new none .single) ["common rare", "common"]
    (by decide +kernel)
  obtain ⟨_, _, hidf, hrows, hexists⟩ := rows_of_fit hfit
  obtain ⟨row, hrow⟩ := hexists (by simp [new]) "Common zeta"
  have hcorpus : corpus .single ["common rare", "common"] = ["common", "rare", "common"] := by
    decide +kernel
  have hranking : IsRanking (corpus .single ["common rare", "common"]) ["common", "rare"] := by
    rw [hcorpus]
    constructor
    . intro t
      simp only [List.mem_cons, List.not_mem_nil, or_false]
      grind
    . decide
  have hterm : "common" ∈ termsOf .single "Common zeta" := by decide +kernel
  refine ⟨_, row, hfit, hidf, hrow, (hrows _ row hrow).bounds, ?_⟩
  apply (hrows _ row hrow).unit
  refine ⟨"common", hterm, ?_⟩
  apply (mem_vocabulary_learned (v := (new none .single : Vectorizer ℝ)) hranking).mpr
  simp [new]

end Vectorizer

end CodeAppraisal.Classifier
