import CodeAppraisal.Proofs.Binary64.Operations
import CodeAppraisal.Proofs.Report.Settings

/-!
This module shows how the lines of suggestions are made up: which there can be, how many of each,
and in what order. No two suggestions have the same line, so a line says which rule it is from, and
a smell cannot be described so that its line looks like one of another rule.
-/
namespace CodeAppraisal

open Quantity

namespace Suggestion

section Messages

def opening : Suggestion → String
  | .fixSyntax _ => "Fix "
  | .highAverageComplexity => "⚠️ H"
  | .highMaximumComplexity => "🔴 Ve"
  | .maintainability .low => "🔴 Lo"
  | .maintainability .moderate => "⚠️ M"
  | .maintainability .good => "✅ Go"
  | .fewComments => "📝 Lo"
  | .wellDocumented => "✅ We"
  | .smells _ => "🔍 Co"
  | .smell _ => "  - "
  | .cleanCode => "🌟 Cl"

theorem message_fixSyntax (fault : String) :
    (fixSyntax fault).message = "Fix syntax errors: " ++ fault := rfl

theorem message_smells (count : Nat) :
    (smells count).message = "🔍 Code smells detected: " ++ count.repr ++ " issues found" := rfl

theorem message_smell (description : String) :
    (smell description).message = "  - " ++ description := rfl

theorem exists_message_eq (a : Suggestion) : ∃ rest, a.message = a.opening ++ rest := by
  cases a with
  | fixSyntax fault =>
    exact ⟨"syntax errors: " ++ fault, by rw [message_fixSyntax, ← String.append_assoc]; rfl⟩
  | highAverageComplexity =>
    exact ⟨"igh average complexity - consider refactoring complex functions", rfl⟩
  | highMaximumComplexity =>
    exact ⟨"ry high maximum complexity - break down complex functions", rfl⟩
  | maintainability level =>
    cases level with
    | low => exact ⟨"w maintainability - major refactoring recommended", rfl⟩
    | moderate => exact ⟨"oderate maintainability - some refactoring suggested", rfl⟩
    | good => exact ⟨"od maintainability!", rfl⟩
  | fewComments => exact ⟨"w comment ratio - add more documentation", rfl⟩
  | wellDocumented => exact ⟨"ll documented code!", rfl⟩
  | smells count =>
    refine ⟨"de smells detected: " ++ count.repr ++ " issues found", ?_⟩
    rw [message_smells, ← String.append_assoc, ← String.append_assoc]
    rfl
  | smell description => exact ⟨description, rfl⟩
  | cleanCode => exact ⟨"ean code! Keep up the good work!", rfl⟩

theorem length_opening (a : Suggestion) : a.opening.toList.length = 4 := by
  cases a with
  | maintainability level => cases level <;> simp [opening]
  | _ => simp [opening]

theorem opening_eq_of_message_eq {a b : Suggestion} (h : a.message = b.message) :
    a.opening = b.opening := by
  obtain ⟨rest, ha⟩ := a.exists_message_eq
  obtain ⟨rest', hb⟩ := b.exists_message_eq
  rw [ha, hb, ← String.toList_inj, String.toList_append, String.toList_append] at h
  have hlength : a.opening.toList.length = b.opening.toList.length := by
    rw [length_opening, length_opening]
  exact String.toList_inj.mp (List.append_inj_left h hlength)

theorem message_injective : Function.Injective message := by
  intro a b h
  have hopening := opening_eq_of_message_eq h
  -- messages of two forms begin differently, so only those of one form are left to be told apart
  rcases a with fault | _ | _ | (_ | _ | _) | _ | _ | count | description | _ <;>
    rcases b with fault' | _ | _ | (_ | _ | _) | _ | _ | count' | description' | _ <;>
    first | rfl | simp only [opening, String.reduceEq] at hopening
  . rw [message_fixSyntax, message_fixSyntax, String.append_right_inj] at h
    rw [h]
  . rw [message_smells, message_smells, String.append_left_inj, String.append_right_inj,
      Nat.repr_inj] at h
    rw [h]
  . rw [message_smell, message_smell, String.append_right_inj] at h
    rw [h]

theorem prefix_message_iff (a : Suggestion) :
    "  - ".toList <+: a.message.toList ↔ ∃ description, a = .smell description := by
  constructor
  . rintro ⟨rest, h⟩
    obtain ⟨rest', ha⟩ := a.exists_message_eq
    rw [ha, String.toList_append] at h
    have hopening := String.toList_inj.mp (List.append_inj_left h (a.length_opening.symm ▸ rfl))
    rcases a with fault | _ | _ | (_ | _ | _) | _ | _ | count | description | _ <;>
      first | exact ⟨_, rfl⟩ | simp only [opening, String.reduceEq] at hopening
  . rintro ⟨description, rfl⟩
    rw [message_smell, String.toList_append]
    exact List.prefix_append _ _

end Messages

section Order

def rule : Suggestion → Nat
  | .fixSyntax _ => 0
  | .highAverageComplexity => 1
  | .highMaximumComplexity => 2
  | .maintainability _ => 3
  | .fewComments => 4
  | .wellDocumented => 4
  | .smells _ => 5
  | .smell _ => 6
  | .cleanCode => 7

theorem isPrefixOf_message (a : Suggestion) :
    "  - ".toList.isPrefixOf a.message.toList = (a.rule == 6) := by
  rw [Bool.eq_iff_iff, List.isPrefixOf_iff_prefix, prefix_message_iff, beq_iff_eq]
  constructor
  . rintro ⟨description, rfl⟩
    rfl
  . cases a <;> simp [rule]

def Before (a b : Suggestion) : Prop :=
  a.rule < b.rule ∨ (∃ description, a = .smell description) ∧ ∃ description, b = .smell description

structure Ordered (lo hi : Nat) (suggestions : List Suggestion) : Prop where
  pairwise : suggestions.Pairwise Before
  rules : ∀ a ∈ suggestions, lo < a.rule ∧ a.rule ≤ hi

variable {lo mid hi : Nat} {xs ys : List Suggestion}

theorem Ordered.append (hxs : Ordered lo mid xs) (hys : Ordered mid hi ys) (hlo : lo ≤ mid)
    (hhi : mid ≤ hi) : Ordered lo hi (xs ++ ys) := by
  constructor
  case pairwise =>
    rw [List.pairwise_append]
    refine ⟨hxs.pairwise, hys.pairwise, ?_⟩
    intro a ha b hb
    exact .inl ((hxs.rules a ha).2.trans_lt (hys.rules b hb).1)
  case rules =>
    intro a ha
    rw [List.mem_append] at ha
    obtain ha | ha := ha
    . have := hxs.rules a ha
      omega
    . have := hys.rules a ha
      omega

theorem countP_le_one {p : Suggestion → Bool} (h : xs.Pairwise Before)
    (hp : ∀ a b, p a = true → p b = true → ¬ a.Before b) : xs.countP p ≤ 1 := by
  have hfilter := h.filter p
  rw [List.countP_eq_length_filter]
  match hxs : xs.filter p with
  | [] | [_] => simp
  | a :: b :: rest =>
    have ha : p a = true := List.of_mem_filter (by rw [hxs]; simp)
    have hb : p b = true := List.of_mem_filter (by rw [hxs]; simp)
    rw [hxs] at hfilter
    exact absurd (List.rel_of_pairwise_cons hfilter (by simp)) (hp a b ha hb)

theorem ordered_nil (lo hi : Nat) : Ordered lo hi [] := ⟨.nil, by simp⟩

theorem ordered_singleton {a : Suggestion} (hlo : lo < a.rule) (hhi : a.rule ≤ hi) :
    Ordered lo hi [a] :=
  ⟨List.pairwise_singleton _ _, by simp [hlo, hhi]⟩

theorem ordered_optional {c : Prop} [Decidable c] {a : Suggestion} (hlo : lo < a.rule)
    (hhi : a.rule ≤ hi) : Ordered lo hi (if c then [a] else []) := by
  split
  . exact ordered_singleton hlo hhi
  . exact ordered_nil lo hi

theorem ordered_smells (count : Nat) (descriptions : List String) :
    Ordered 4 7 (.smells count :: descriptions.map .smell) := by
  constructor
  case pairwise =>
    rw [List.pairwise_cons, List.forall_mem_map, List.pairwise_map]
    constructor
    . exact fun description _ => .inl (by simp [rule])
    . exact List.pairwise_of_forall fun _ _ => .inr ⟨⟨_, rfl⟩, _, rfl⟩
  case rules => simp [rule]

end Order

end Suggestion

section Measured

open MetricsRecord (smellNotes)

theorem ordered_smellNotes (praise : Bool) (descriptions : List String) :
    Suggestion.Ordered 4 7 (smellNotes praise descriptions) := by
  cases descriptions with
  | nil => exact Suggestion.ordered_optional (by decide) (by decide)
  | cons s rest => exact Suggestion.ordered_smells _ _

theorem mem_smellNotes_iff (praise : Bool) (descriptions : List String) (a : Suggestion) :
    a ∈ smellNotes praise descriptions ↔
      (descriptions = [] ∧ praise = true ∧ a = .cleanCode) ∨
      (descriptions ≠ [] ∧ a = .smells descriptions.length) ∨
      ∃ description ∈ descriptions.take 3, a = .smell description := by
  cases descriptions with
  | nil => cases praise <;> simp [smellNotes]
  | cons s rest =>
    rw [smellNotes, List.mem_cons, List.mem_map]
    simp only [reduceCtorEq, false_and, false_or, ne_eq, not_false_eq_true, true_and, eq_comm]

theorem smellNotes_of_ne_nil (praise : Bool) {descriptions : List String}
    (h : descriptions ≠ []) :
    smellNotes praise descriptions =
      .smells descriptions.length :: (descriptions.take 3).map .smell := by
  cases descriptions with
  | nil => exact absurd rfl h
  | cons s rest => rfl

theorem length_smellNotes_le (praise : Bool) (descriptions : List String) :
    (smellNotes praise descriptions).length ≤ 4 := by
  cases descriptions with
  | nil => cases praise <;> simp [smellNotes]
  | cons s rest =>
    simp only [smellNotes, List.length_cons, List.length_map, List.length_take]
    omega

theorem filter_smellNotes (praise : Bool) (descriptions : List String) :
    (smellNotes praise descriptions).filter (·.rule == 6) =
      (descriptions.take 3).map .smell := by
  cases descriptions with
  | nil => cases praise <;> rfl
  | cons s rest =>
    rw [smellNotes, List.filter_cons_of_neg (by simp [Suggestion.rule]), List.filter_eq_self,
      List.forall_mem_map]
    exact fun _ _ => rfl

variable {α : Type} [Quantity α]

theorem ordered_commentSuggestions (ratio : α) :
    Suggestion.Ordered 3 4 (commentSuggestions ratio) := by
  unfold commentSuggestions
  split
  . exact Suggestion.ordered_singleton (by decide) (by decide)
  . exact Suggestion.ordered_optional (by decide) (by decide)

theorem length_commentSuggestions_le (ratio : α) : (commentSuggestions ratio).length ≤ 1 := by
  unfold commentSuggestions
  split
  . simp
  . split <;> simp

theorem mem_commentSuggestions_iff (ratio : α) (a : Suggestion) :
    a ∈ commentSuggestions ratio ↔
      lt ratio 0.1 = true ∧ a = .fewComments ∨
      lt ratio 0.1 = false ∧ lt 0.3 ratio = true ∧ a = .wellDocumented := by
  unfold commentSuggestions
  cases lt ratio 0.1 <;> cases lt 0.3 ratio <;> simp

theorem ordered_generalSuggestions (m : CodeMetrics α) :
    Suggestion.Ordered 0 4 (MetricsRecord.analyzed m).generalSuggestions := by
  have haverage : Suggestion.Ordered 0 1
      (if lt 10.0 m.averageComplexity then [.highAverageComplexity] else []) :=
    Suggestion.ordered_optional (by decide) (by decide)
  have hmaximum : Suggestion.Ordered 1 2
      (if m.maxComplexity > 15 then [.highMaximumComplexity] else []) :=
    Suggestion.ordered_optional (by decide) (by decide)
  have hlevel : Suggestion.Ordered 2 3 [.maintainability (.ofIndex m.maintainabilityIndex)] :=
    Suggestion.ordered_singleton (by simp [Suggestion.rule]) (by simp [Suggestion.rule])
  exact ((haverage.append hmaximum (by decide) (by decide)).append hlevel (by decide)
    (by decide)).append (ordered_commentSuggestions m.commentRatio) (by decide) (by decide)

theorem filter_generalSuggestions (m : CodeMetrics α) :
    (MetricsRecord.analyzed m).generalSuggestions.filter (·.rule == 6) = [] := by
  rw [List.filter_eq_nil_iff]
  intro a ha
  have := (ordered_generalSuggestions m).rules a ha
  rw [beq_iff_eq]
  omega

theorem length_generalSuggestions (m : CodeMetrics α) :
    1 ≤ (MetricsRecord.analyzed m).generalSuggestions.length ∧
    (MetricsRecord.analyzed m).generalSuggestions.length ≤ 4 := by
  have hcomments := length_commentSuggestions_le m.commentRatio
  simp only [MetricsRecord.generalSuggestions, List.length_append, apply_ite List.length,
    List.length_singleton, List.length_nil]
  split <;> split <;> omega

theorem ordered_suggestions (m : CodeMetrics α) :
    Suggestion.Ordered 0 7 (MetricsRecord.analyzed m).suggestions := by
  rw [MetricsRecord.suggestions_eq]
  exact (ordered_generalSuggestions m).append (ordered_smellNotes _ _) (by decide) (by decide)

def CodeMetrics.Calls (m : CodeMetrics α) : Suggestion → Prop
  | .fixSyntax _ => False
  | .highAverageComplexity => lt 10.0 m.averageComplexity = true
  | .highMaximumComplexity => 15 < m.maxComplexity
  | .maintainability level => level = .ofIndex m.maintainabilityIndex
  | .fewComments => lt m.commentRatio 0.1 = true
  | .wellDocumented => lt m.commentRatio 0.1 = false ∧ lt 0.3 m.commentRatio = true
  | .smells count => m.codeSmells ≠ [] ∧ count = m.codeSmells.length
  | .smell description => description ∈ m.codeSmells.take 3
  | .cleanCode => m.codeSmells = [] ∧ lt 50.0 m.maintainabilityIndex = true

theorem mem_suggestions_iff (m : CodeMetrics α) (a : Suggestion) :
    a ∈ (MetricsRecord.analyzed m).suggestions ↔ m.Calls a := by
  rw [MetricsRecord.suggestions_eq, List.mem_append, mem_smellNotes_iff]
  cases a <;> simp [MetricsRecord.generalSuggestions, MetricsRecord.smells,
    MetricsRecord.deservesPraise, CodeMetrics.Calls, mem_commentSuggestions_iff]

end Measured

section Lines

variable {α : Type} [Quantity α]

def levelLines : List String :=
  [Maintainability.low, .moderate, .good].map (Suggestion.message ∘ .maintainability)

def commentLines : List String :=
  [Suggestion.fewComments, .wellDocumented].map Suggestion.message

theorem mem_levelLines_iff (a : Suggestion) :
    a.message ∈ levelLines ↔ ∃ level, a = .maintainability level := by
  unfold levelLines
  rw [List.mem_map]
  constructor
  . rintro ⟨level, _, h⟩
    exact ⟨level, Suggestion.message_injective h.symm⟩
  . rintro ⟨level, rfl⟩
    exact ⟨level, by cases level <;> simp, rfl⟩

theorem mem_commentLines_iff (a : Suggestion) :
    a.message ∈ commentLines ↔ a = .fewComments ∨ a = .wellDocumented := by
  unfold commentLines
  rw [List.mem_map_of_injective Suggestion.message_injective]
  simp

structure WellMade (m : CodeMetrics α) (lines : List String) : Prop where
  length_pos : 1 ≤ lines.length
  length_le : lines.length ≤ 8
  ordered : lines.Pairwise fun line line' =>
    ∃ a b : Suggestion, line = a.message ∧ line' = b.message ∧ a.Before b
  one_level : lines.countP (· ∈ levelLines) = 1
  comments : lines.countP (· ∈ commentLines) ≤ 1
  given : ∀ a : Suggestion, a.message ∈ lines ↔ m.Calls a
  listing : m.codeSmells ≠ [] → ∃ before,
    lines = before ++ (Suggestion.smells m.codeSmells.length).message ::
      (m.codeSmells.take 3).map ("  - " ++ ·)
  listed : lines.filter (fun line => "  - ".toList.isPrefixOf line.toList) =
    (m.codeSmells.take 3).map ("  - " ++ ·)
  praise : Suggestion.cleanCode.message ∈ lines →
    m.codeSmells = [] ∧ (Suggestion.maintainability .good).message ∈ lines

theorem message_mem_iff (m : CodeMetrics α) (a : Suggestion) :
    a.message ∈ (MetricsRecord.analyzed m).suggestions.map Suggestion.message ↔ m.Calls a := by
  rw [List.mem_map_of_injective Suggestion.message_injective, mem_suggestions_iff]

theorem countP_levelLines (m : CodeMetrics α) :
    ((MetricsRecord.analyzed m).suggestions.map Suggestion.message).countP
      (· ∈ levelLines) = 1 := by
  apply Nat.le_antisymm
  . rw [List.countP_map]
    apply Suggestion.countP_le_one (ordered_suggestions m).pairwise
    intro a b ha hb
    simp only [Function.comp_apply, decide_eq_true_eq, mem_levelLines_iff] at ha hb
    obtain ⟨_, rfl⟩ := ha
    obtain ⟨_, rfl⟩ := hb
    simp [Suggestion.Before, Suggestion.rule]
  . rw [Nat.succ_le_iff, List.countP_pos_iff]
    refine ⟨_, (message_mem_iff m (.maintainability (.ofIndex m.maintainabilityIndex))).mpr rfl, ?_⟩
    rw [decide_eq_true_eq, mem_levelLines_iff]
    exact ⟨_, rfl⟩

theorem countP_commentLines_le (m : CodeMetrics α) :
    ((MetricsRecord.analyzed m).suggestions.map Suggestion.message).countP
      (· ∈ commentLines) ≤ 1 := by
  rw [List.countP_map]
  apply Suggestion.countP_le_one (ordered_suggestions m).pairwise
  intro a b ha hb
  simp only [Function.comp_apply, decide_eq_true_eq, mem_commentLines_iff] at ha hb
  obtain rfl | rfl := ha <;> obtain rfl | rfl := hb <;> simp [Suggestion.Before, Suggestion.rule]

theorem filter_lines (m : CodeMetrics α) :
    ((MetricsRecord.analyzed m).suggestions.map Suggestion.message).filter
      (fun line => "  - ".toList.isPrefixOf line.toList) =
      (m.codeSmells.take 3).map ("  - " ++ ·) := by
  have hsmells : (fun line => "  - ".toList.isPrefixOf line.toList) ∘ Suggestion.message =
      (·.rule == 6) := funext Suggestion.isPrefixOf_message
  rw [List.filter_map, hsmells, MetricsRecord.suggestions_eq, List.filter_append,
    filter_generalSuggestions, filter_smellNotes, List.nil_append, List.map_map]
  rfl

theorem wellMade_of_praise (hpraise : ∀ index : α, lt 50.0 index = true →
    Maintainability.ofIndex index = .good) (m : CodeMetrics α) :
    WellMade m ((MetricsRecord.analyzed m).suggestions.map Suggestion.message) := by
  have hgeneral := length_generalSuggestions m
  constructor
  case length_pos =>
    rw [List.length_map, MetricsRecord.suggestions_eq, List.length_append]
    omega
  case length_le =>
    have hnotes := length_smellNotes_le (MetricsRecord.analyzed m).deservesPraise m.codeSmells
    rw [List.length_map, MetricsRecord.suggestions_eq, List.length_append, MetricsRecord.smells]
    omega
  case ordered =>
    rw [List.pairwise_map]
    exact (ordered_suggestions m).pairwise.imp fun h => ⟨_, _, rfl, rfl, h⟩
  case one_level => exact countP_levelLines m
  case comments => exact countP_commentLines_le m
  case given => exact message_mem_iff m
  case listing =>
    intro h
    refine ⟨(MetricsRecord.analyzed m).generalSuggestions.map Suggestion.message, ?_⟩
    rw [MetricsRecord.suggestions_eq, MetricsRecord.smells, smellNotes_of_ne_nil _ h,
      List.map_append, List.map_cons, List.map_map]
    rfl
  case listed => exact filter_lines m
  case praise =>
    intro h
    obtain ⟨hsmells, hindex⟩ := (message_mem_iff m .cleanCode).mp h
    exact ⟨hsmells, (message_mem_iff m _).mpr (hpraise _ hindex).symm⟩

theorem Maintainability.ofIndex_eq_good {index : Float} (h : lt 50.0 index = true) :
    ofIndex index = .good := by
  -- the index may be infinite or no number, so the bounds are compared through it
  have hfifty : (50.0 : Float) < index := of_decide_eq_true h
  have hlow : ¬ index < 20.0 := fun hlow =>
    absurd (Binary64.lt_of_between (by decide) (by decide) hfifty hlow) (by decide)
  have hmoderate : ¬ index < 50.0 := fun hmoderate =>
    absurd (Binary64.lt_of_between (by decide) (by decide) hfifty hmoderate) (by decide)
  rw [ofIndex, if_neg (by simpa [Quantity.lt] using hlow),
    if_neg (by simpa [Quantity.lt] using hmoderate)]

theorem suggestions_wellMade :
    (∀ m : CodeMetrics Float,
      WellMade m ((MetricsRecord.analyzed m).suggestions.map Suggestion.message)) ∧
    (∀ error fault lines,
      (MetricsRecord.failed error fault lines : MetricsRecord Float).suggestions.map
        Suggestion.message = ["Fix syntax errors: " ++ fault]) ∧
    Function.Injective Suggestion.message ∧
    ∀ a : Suggestion,
      "  - ".toList <+: a.message.toList ↔ ∃ description, a = .smell description := by
  refine ⟨?_, ?_, Suggestion.message_injective, Suggestion.prefix_message_iff⟩
  . exact wellMade_of_praise fun _ => Maintainability.ofIndex_eq_good
  . exact fun error fault lines => rfl

end Lines

end CodeAppraisal
