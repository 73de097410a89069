import CodeAppraisal.Proofs.Text.Search
import Mathlib.Data.List.TakeWhile

/-!
This module says where the words of a text stand: they are its maximal runs of word characters, and
what begins and ends at a word boundary is found exactly there.
-/
namespace CodeAppraisal.Text

variable {before after rest : List Char} {c : Char}

theorem head?_dropWhile (kind : Char → Bool) (after : List Char) :
    (after.dropWhile kind).head?.any kind = false := by
  have h := List.head?_dropWhile_not kind after
  cases hhead : (after.dropWhile kind).head? with
  | none => rfl
  | some c => simpa [hhead] using h

def placedWords (before after : List Char) : List Occurrence :=
  match after with
  | [] => []
  | c :: rest =>
    if isWordChar c then
      let word := c :: rest.takeWhile isWordChar
      let later := rest.dropWhile isWordChar
      ⟨before, word, later⟩ :: placedWords (before ++ word) later
    else placedWords (before ++ [c]) rest
termination_by after.length
decreasing_by
  . exact Nat.lt_succ_of_le (List.length_dropWhile_le isWordChar rest)
  . simp

theorem words_go_of_ne_nil {run : List Char} (h : run ≠ []) (after : List Char) :
    words.go run after =
      (run.reverse ++ after.takeWhile isWordChar) :: words (after.dropWhile isWordChar) := by
  induction after generalizing run with
  | nil => simp [words, words.go, words.flush, h]
  | cons c rest ih =>
    unfold words.go
    split
    . next hword => simp [ih, hword]
    . next hword => simp [words, words.go, words.flush, h, hword]

theorem words_cons (c : Char) (rest : List Char) :
    words (c :: rest) =
      if isWordChar c then (c :: rest.takeWhile isWordChar) :: words (rest.dropWhile isWordChar)
      else words rest := by
  rw [words, words.go]
  split
  . simp [words_go_of_ne_nil]
  . rfl

theorem words_go_append (run before : List Char) {c : Char} (hc : isWordChar c = false)
    (after : List Char) :
    words.go run (before ++ c :: after) = words.go run before ++ words after := by
  have hflush : ∀ run later, words.flush run later = words.flush run [] ++ later := by
    intro run later
    unfold words.flush
    split <;> rfl
  induction before generalizing run with
  | nil =>
    simp only [List.nil_append, words.go, hc, Bool.false_eq_true, if_false]
    exact hflush run _
  | cons d before ih =>
    rw [List.cons_append, words.go, words.go]
    split
    . exact ih _
    . rw [ih, hflush, hflush _ (words.go [] before), List.append_assoc]

theorem words_append (before : List Char) {c : Char} (hc : isWordChar c = false)
    (after : List Char) : words (before ++ c :: after) = words before ++ words after :=
  words_go_append [] before hc after

theorem map_taken_placedWords (before after : List Char) :
    (placedWords before after).map (·.taken) = words after := by
  fun_induction placedWords before after with
  | case1 => rfl
  | case2 before c rest hword word later ih =>
    rw [words_cons, if_pos hword, List.map_cons, ih]
  | case3 before c rest hword ih => rw [words_cons, if_neg hword, ih]

structure IsWord (text : List Char) (o : Occurrence) : Prop where
  text_eq : o.before ++ o.taken ++ o.after = text
  ne_nil : o.taken ≠ []
  all_word : ∀ c ∈ o.taken, isWordChar c = true
  before_word : o.before.getLast?.any isWordChar = false
  after_word : o.after.head?.any isWordChar = false

theorem takeWhile_append_of_run {kind : Char → Bool} {run : List Char}
    (hrun : ∀ c ∈ run, kind c = true) (hafter : after.head?.any kind = false) :
    (run ++ after).takeWhile kind = run := by
  rw [List.takeWhile_append_of_pos hrun]
  cases after with
  | nil => simp
  | cons c after =>
    have hc : kind c = false := by simpa using hafter
    simp [hc]

theorem dropWhile_append_of_run {kind : Char → Bool} {run : List Char}
    (hrun : ∀ c ∈ run, kind c = true) (hafter : after.head?.any kind = false) :
    (run ++ after).dropWhile kind = after := by
  rw [List.dropWhile_append_of_pos hrun]
  cases after with
  | nil => simp
  | cons c after =>
    have hc : kind c = false := by simpa using hafter
    simp [hc]

theorem takeWhile_append_prefix {kind : Char → Bool} {gap : List Char} (hne : gap ≠ [])
    (hgap : gap.getLast?.any kind = false) (after : List Char) :
    (gap ++ after).takeWhile kind <+: gap := by
  rw [List.takeWhile_append]
  split
  . next hall =>
    -- a gap of this kind would have a last character of this kind
    have heq := List.takeWhile_prefix (p := kind).eq_of_length hall
    have hmem : gap.getLast hne ∈ gap.takeWhile kind := by
      rw [heq]
      exact List.getLast_mem hne
    simp [List.getLast?_eq_some_getLast hne, List.mem_takeWhile_imp hmem] at hgap
  . exact List.takeWhile_prefix kind

theorem last_not_word
    (h : before.getLast?.any isWordChar = true → (c :: rest).head?.any isWordChar = false)
    (hword : isWordChar c = true) : before.getLast?.any isWordChar = false := by
  apply Bool.eq_false_iff.mpr
  intro hlast
  simpa [hword] using h hlast

theorem isWord_of_mem_placedWords {o : Occurrence} (h : o ∈ placedWords before after)
    (hbefore : before.getLast?.any isWordChar = true → after.head?.any isWordChar = false) :
    IsWord (before ++ after) o := by
  fun_induction placedWords before after with
  | case1 => cases h
  | case2 before c rest hword word later ih =>
    cases List.mem_cons.mp h with
    | inl heq =>
      subst heq
      constructor
      . simp [word, later]
      . simp [word]
      . intro d hd
        cases List.mem_cons.mp hd with
        | inl heq => rwa [heq]
        | inr hmem => exact List.mem_takeWhile_imp hmem
      . exact last_not_word hbefore hword
      . exact head?_dropWhile isWordChar rest
    | inr hmem =>
      have hisWord := ih hmem fun _ => head?_dropWhile isWordChar rest
      simpa [word, later] using hisWord
  | case3 before c rest hword ih =>
    have hisWord := ih h (by simp [hword])
    simpa using hisWord

theorem IsWord.text_eq_of_gap {o : Occurrence} {gap : List Char} (h : IsWord (before ++ after) o)
    (hgap : before ++ gap = o.before) : gap ++ (o.taken ++ o.after) = after := by
  have htext := h.text_eq
  rwa [← hgap, List.append_assoc, List.append_assoc, List.append_cancel_left_eq] at htext

theorem mem_placedWords_of_isWord {o : Occurrence} (h : IsWord (before ++ after) o)
    (hfront : before <+: o.before) : o ∈ placedWords before after := by
  fun_induction placedWords before after with
  | case1 before =>
    obtain ⟨gap, hgap⟩ := hfront
    have htext := h.text_eq_of_gap hgap
    simp [h.ne_nil] at htext
  | case2 before c rest hword word later ih =>
    obtain ⟨gap, hgap⟩ := hfront
    have htext := h.text_eq_of_gap hgap
    have hsplit : word ++ later = c :: rest := by simp [word, later]
    have hrun : word = (gap ++ (o.taken ++ o.after)).takeWhile isWordChar := by
      rw [htext, List.takeWhile_cons_of_pos hword]
    by_cases hnil : gap = []
    . -- no gap: this word is the one
      subst hnil
      rw [List.nil_append, takeWhile_append_of_run h.all_word h.after_word] at hrun
      rw [List.nil_append, ← hsplit, hrun, List.append_cancel_left_eq] at htext
      rw [List.append_nil] at hgap
      apply List.mem_cons.mpr
      left
      rw [hgap, hrun, ← htext]
    . have hlast : gap.getLast?.any isWordChar = false := by
        have hbefore := h.before_word
        rwa [← hgap, List.getLast?_append, List.getLast?_eq_some_getLast hnil, Option.some_or,
          ← List.getLast?_eq_some_getLast hnil] at hbefore
      have hreach := takeWhile_append_prefix hnil hlast (o.taken ++ o.after)
      rw [← hrun] at hreach
      apply List.mem_cons_of_mem
      apply ih
      . rwa [List.append_assoc, hsplit]
      . rw [← hgap]
        exact (List.prefix_append_right_inj before).mpr hreach
  | case3 before c rest hword ih =>
    obtain ⟨gap, hgap⟩ := hfront
    have htext := h.text_eq_of_gap hgap
    cases gap with
    | nil =>
      -- a word does not start with this character
      cases htaken : o.taken with
      | nil => exact absurd htaken h.ne_nil
      | cons d taken =>
        rw [htaken] at htext
        injection htext with hd _
        have hchar := h.all_word d (by simp [htaken])
        rw [hd] at hchar
        exact absurd hchar hword
    | cons d gap =>
      injection htext with hd _
      subst hd
      apply ih
      . simpa using h
      . rw [← hgap]
        exact ⟨gap, by simp⟩

theorem mem_placedWords_iff {text : List Char} {o : Occurrence} :
    o ∈ placedWords [] text ↔ IsWord text o := by
  constructor
  . intro h
    exact isWord_of_mem_placedWords h (by simp)
  . intro h
    exact mem_placedWords_of_isWord h List.nil_prefix

def Occurrence.Before (o o' : Occurrence) : Prop :=
  o.before.length + o.taken.length ≤ o'.before.length

theorem prefix_of_mem_placedWords {o : Occurrence} (h : o ∈ placedWords before after) :
    before <+: o.before := by
  fun_induction placedWords before after with
  | case1 => cases h
  | case2 before c rest hword word later ih =>
    cases List.mem_cons.mp h with
    | inl heq => exact heq ▸ List.prefix_refl before
    | inr hmem => exact (List.prefix_append before word).trans (ih hmem)
  | case3 before c rest hword ih => exact (List.prefix_append before [c]).trans (ih h)

theorem placedWords_pairwise (before after : List Char) :
    (placedWords before after).Pairwise Occurrence.Before := by
  fun_induction placedWords before after with
  | case1 => exact List.Pairwise.nil
  | case2 before c rest hword word later ih =>
    rw [List.pairwise_cons]
    refine ⟨?_, ih⟩
    intro o ho
    have hle := (prefix_of_mem_placedWords ho).length_le
    rwa [List.length_append] at hle
  | case3 before c rest hword ih => exact ih

namespace Pattern

variable {kind : Char → Bool} {pattern : Pattern}

theorem ends_boundary_seq : (seq boundary pattern).ends before after =
    if atBoundary before after then pattern.ends before after else [] := by
  rw [ends_seq, ends_boundary]
  split
  . simp
  . rfl

theorem ends_char_seq : (seq (char kind) pattern).ends before (c :: rest) =
    if kind c then (pattern.ends (before ++ [c]) rest).map fun e => (c :: e.1, e.2) else [] := by
  rw [ends_seq, ends_char_cons]
  split
  . simp
  . rfl

theorem ends_seq_boundary : (seq pattern boundary).ends before after =
    (pattern.ends before after).filter fun e => atBoundary (before ++ e.1) e.2 := by
  rw [ends_seq]
  induction pattern.ends before after with
  | nil => rfl
  | cons e es ih =>
    rw [List.flatMap_cons, ih, ends_boundary, List.filter_cons]
    split
    . simp
    . rfl

theorem ends_many_boundary (hkind : ∀ c, kind c = true → isWordChar c = true) {n : Nat}
    (hbefore : n = 0 → before.getLast?.any isWordChar = true) :
    (seq (many n kind) boundary).ends before after =
      if n ≤ (after.takeWhile kind).length ∧ (after.dropWhile kind).head?.any isWordChar = false
      then [(after.takeWhile kind, after.dropWhile kind)] else [] := by
  rw [ends_seq_boundary, ends]
  induction after generalizing before n with
  | nil =>
    by_cases hn : n = 0
    . simp [endsOfMany, hn, atBoundary_of_word (hbefore hn)]
    . simp [endsOfMany, hn]
  | cons c rest ih =>
    have hstop : ((if n = 0 then [([], c :: rest)] else []).filter
        fun e : List Char × List Char => atBoundary (before ++ e.1) e.2) =
          if n = 0 ∧ isWordChar c = false then [([], c :: rest)] else [] := by
      by_cases hn : n = 0
      . simp [hn, List.filter_cons, atBoundary_of_word (hbefore hn)]
      . simp [hn]
    rw [endsOfMany, List.filter_append, hstop]
    split
    . next hc =>
      have hrun := @ih (before ++ [c]) (n - 1) (by simp [hkind c hc])
      have hlength : n - 1 ≤ (rest.takeWhile kind).length ↔
          n ≤ (rest.takeWhile kind).length + 1 := by omega
      simp only [List.append_assoc, List.cons_append, List.nil_append, hlength] at hrun
      simp only [List.filter_map, Function.comp_def, hrun, hkind c hc, hc,
        List.takeWhile_cons_of_pos, List.dropWhile_cons_of_pos, List.length_cons,
        Bool.true_eq_false, and_false, if_false, List.append_nil]
      split <;> rfl
    . next hc => simp [hc]

structure TakesWords (pattern : Pattern) (sort : List Char → Bool) : Prop where
  start : ∀ {before c rest}, before.getLast?.any isWordChar = false → isWordChar c = true →
    pattern.ends before (c :: rest) =
      if sort (c :: rest.takeWhile isWordChar) then
        [(c :: rest.takeWhile isWordChar, rest.dropWhile isWordChar)] else []
  inside : ∀ {before c rest}, before.getLast?.any isWordChar = true → isWordChar c = true →
    pattern.ends before (c :: rest) = []
  outside : ∀ {before c rest}, isWordChar c = false → pattern.ends before (c :: rest) = []

namespace TakesWords

variable {sort : List Char → Bool} (h : pattern.TakesWords sort)

include h

theorem find_inside {run : List Char} (hbefore : before.getLast?.any isWordChar = true)
    (hrun : ∀ c ∈ run, isWordChar c = true) (after : List Char) :
    pattern.find before (run ++ after) = pattern.find (before ++ run) after := by
  induction run generalizing before with
  | nil => rw [List.nil_append, List.append_nil]
  | cons c run ih =>
    have hc := hrun c List.mem_cons_self
    rw [List.cons_append, find_cons_of_ends_eq_nil (h.inside hbefore hc), ih (by simp [hc])]
    . rw [List.append_assoc, List.singleton_append]
    . intro d hd
      exact hrun d (List.mem_cons_of_mem c hd)

theorem find_eq (hbefore : before.getLast?.any isWordChar = true →
      after.head?.any isWordChar = false) :
    pattern.find before after = (placedWords before after).filter (sort ·.taken) := by
  fun_induction placedWords before after with
  | case1 => exact find_nil
  | case2 before c rest hword word later ih =>
    have hstart := @h.start before c rest (last_not_word hbefore hword) hword
    have hlater := ih fun _ => head?_dropWhile isWordChar rest
    by_cases hsort : sort word = true
    . rw [if_pos hsort] at hstart
      rw [find_cons_of_ends_eq_singleton hstart (List.length_dropWhile_le isWordChar rest), hlater,
        List.filter_cons_of_pos (by exact hsort)]
    . -- the search goes on behind the first character, and so through the rest of the word
      rw [if_neg hsort] at hstart
      have hrest := @find_inside (before ++ [c]) pattern sort h (rest.takeWhile isWordChar)
        (by simp [hword]) (fun d hd => List.mem_takeWhile_imp hd) later
      rw [List.takeWhile_append_dropWhile, List.append_assoc, List.singleton_append] at hrest
      rw [find_cons_of_ends_eq_nil hstart, hrest, hlater,
        List.filter_cons_of_neg (by exact hsort)]
  | case3 before c rest hword ih =>
    rw [find_cons_of_ends_eq_nil (h.outside (Bool.eq_false_iff.mpr hword)), ih]
    simp [hword]

theorem occurs_iff (hend : ∀ before, pattern.ends before [] = []) {text : List Char}
    {o : Occurrence} : pattern.Occurs text o ↔ IsWord text o ∧ sort o.taken = true := by
  obtain ⟨before, taken, after⟩ := o
  have hends : pattern.Takes before taken after ↔
      (taken, after) ∈ pattern.ends before (taken ++ after) := by simp [mem_ends_iff]
  constructor
  . rintro ⟨htext, htakes⟩
    dsimp only at htext htakes
    rw [hends] at htakes
    cases hplace : taken ++ after with
    | nil =>
      rw [hplace, hend] at htakes
      cases htakes
    | cons c rest =>
      rw [hplace] at htakes
      cases hc : isWordChar c with
      | false =>
        rw [h.outside hc] at htakes
        cases htakes
      | true =>
        cases hlast : before.getLast?.any isWordChar with
        | true =>
          rw [h.inside hlast hc] at htakes
          cases htakes
        | false =>
          rw [h.start hlast hc] at htakes
          split at htakes
          . next hsort =>
            obtain ⟨rfl, rfl⟩ := Prod.mk.inj (List.mem_singleton.mp htakes)
            refine ⟨?_, hsort⟩
            constructor
            . exact htext
            . exact List.cons_ne_nil _ _
            . exact List.forall_mem_cons.mpr ⟨hc, fun d hd => List.mem_takeWhile_imp hd⟩
            . exact hlast
            . exact head?_dropWhile isWordChar rest
          . cases htakes
  . rintro ⟨hword, hsort⟩
    refine ⟨hword.text_eq, ?_⟩
    dsimp only at hsort ⊢
    rw [hends]
    cases taken with
    | nil => exact absurd rfl hword.ne_nil
    | cons c run =>
      obtain ⟨hc, hrun⟩ := List.forall_mem_cons.mp hword.all_word
      rw [List.cons_append, h.start hword.before_word hc,
        takeWhile_append_of_run hrun hword.after_word,
        dropWhile_append_of_run hrun hword.after_word, if_pos hsort]
      exact List.mem_singleton.mpr rfl

end TakesWords

/-- Two word characters, as many more as there are, and a boundary on either side:
`\b\w\w+\b`. -/
def token : Pattern :=
  seq boundary (seq (char isWordChar) (seq (many 1 isWordChar) boundary))

theorem token_takesWords : token.TakesWords (2 ≤ ·.length) := by
  unfold token
  constructor
  . intro before c rest hlast hc
    have hmany := @ends_many_boundary (before ++ [c]) rest isWordChar (fun _ h => h) 1 (by simp)
    simp only [head?_dropWhile, and_true] at hmany
    have hstart : atBoundary before (c :: rest) = true := by simp [atBoundary, hlast, hc]
    rw [ends_boundary_seq, if_pos hstart, ends_char_seq, if_pos hc, hmany]
    by_cases hlong : 1 ≤ (rest.takeWhile isWordChar).length
    . simp [hlong]
    . simp [hlong]
  . intro before c rest hlast hc
    rw [ends_boundary_seq, atBoundary_of_word hlast]
    simp [hc]
  . intro before c rest hc
    rw [ends_boundary_seq, ends_char_seq]
    simp [hc]

end Pattern

end CodeAppraisal.Text
