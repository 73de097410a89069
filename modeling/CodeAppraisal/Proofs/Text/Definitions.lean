import CodeAppraisal.Features
import CodeAppraisal.Proofs.Text.CodePointRanges
import CodeAppraisal.Proofs.Text.Words

/-!
This module is about definitions in a text: a keyword, white space and a name. It says which texts
have one, that a search finds as many of them as are counted, and that none is lost where a text
goes on.
-/
namespace CodeAppraisal.Text

def Introduces (keyword : List Char) (kind : Char → Bool) (s : List Char) : Prop :=
  ∃ gap c later, s = keyword ++ gap ++ c :: later ∧ gap ≠ [] ∧ (∀ b ∈ gap, isBlank b = true) ∧
    kind c = true

def Contains (keyword : List Char) (kind : Char → Bool) (s : List Char) : Prop :=
  ∃ before gap c later, s = before ++ keyword ++ gap ++ c :: later ∧ gap ≠ [] ∧
    (∀ b ∈ gap, isBlank b = true) ∧ kind c = true

theorem isBlank_of_isWordChar {c : Char} (h : isWordChar c = true) : isBlank c = false := by
  rw [Bool.eq_false_iff]
  intro hblank
  rw [isWordChar_of_isBlank c hblank] at h
  cases h

theorem lt_128_of_isLower {c : Char} (h : c.isLower = true) : c.toNat < 128 := by
  have hbounds : (decide ('a'.val ≤ c.val) && decide (c.val ≤ 'z'.val)) = true := h
  rw [Bool.and_eq_true, decide_eq_true_eq, decide_eq_true_eq, UInt32.le_iff_toNat_le,
    UInt32.le_iff_toNat_le] at hbounds
  exact Nat.lt_of_le_of_lt hbounds.2 (by decide)

theorem isWordChar_of_isSmallStart (c : Char) (h : isSmallStart c = true) :
    isWordChar c = true := by
  have hascii : c.toNat < 128 := by
    rw [isSmallStart, Bool.or_eq_true, beq_iff_eq] at h
    obtain hlower | rfl := h
    . exact lt_128_of_isLower hlower
    . decide
  have himp : (!isSmallStart c || isWordChar c) = true :=
    of_ascii (P := fun c => !isSmallStart c || isWordChar c) (by decide +kernel) hascii
  simpa [h] using himp

variable {keyword s t rest later : List Char} {kind : Char → Bool}

theorem contains_iff_suffix : Contains keyword kind s ↔
    ∃ later, later <:+ s ∧ Introduces keyword kind later := by
  constructor
  . rintro ⟨before, gap, c, later, rfl, hgap⟩
    refine ⟨keyword ++ gap ++ c :: later, ⟨before, ?_⟩, gap, c, later, rfl, hgap⟩
    simp
  . rintro ⟨_, ⟨before, rfl⟩, gap, c, later, rfl, hgap⟩
    refine ⟨before, gap, c, later, ?_, hgap⟩
    simp

theorem head?_any_append {xs : List Char} (hne : xs ≠ []) (hall : ∀ c ∈ xs, kind c = true)
    (ys : List Char) : (xs ++ ys).head?.any kind = true := by
  cases xs with
  | nil => exact absurd rfl hne
  | cons c xs => exact hall c List.mem_cons_self

theorem takeWhile_ne_nil (h : s.head?.any kind = true) : s.takeWhile kind ≠ [] := by
  cases s with
  | nil => cases h
  | cons c s =>
    rw [List.takeWhile_cons_of_pos (by simpa using h)]
    exact List.cons_ne_nil _ _

theorem afterKeyword?_eq_some_iff : afterKeyword? keyword s = some rest ↔ ∃ gap,
    s = keyword ++ gap ++ rest ∧ gap ≠ [] ∧ (∀ b ∈ gap, isBlank b = true) ∧
      rest.head?.any isBlank = false := by
  constructor
  . intro h
    simp only [afterKeyword?] at h
    split at h
    . next hprefix =>
      obtain ⟨behind, rfl⟩ := List.isPrefixOf_iff_prefix.mp hprefix
      rw [List.drop_left] at h
      split at h
      . next hblank =>
        injection h with heq
        subst heq
        refine ⟨behind.takeWhile isBlank, ?_, takeWhile_ne_nil hblank, ?_, ?_⟩
        . rw [List.append_assoc, List.takeWhile_append_dropWhile]
        . intro b hb
          exact List.mem_takeWhile_imp hb
        . exact head?_dropWhile isBlank behind
      . cases h
    . cases h
  . rintro ⟨gap, rfl, hne, hblank, hrest⟩
    have hprefix : keyword.isPrefixOf (keyword ++ gap ++ rest) = true := by
      rw [List.isPrefixOf_iff_prefix, List.append_assoc]
      exact List.prefix_append _ _
    simp only [afterKeyword?]
    rw [if_pos hprefix, List.append_assoc, List.drop_left,
      if_pos (head?_any_append hne hblank rest), dropWhile_append_of_run hblank hrest]

theorem afterDefinition?_eq_some_iff : afterDefinition? keyword s = some later ↔ ∃ gap name,
    s = keyword ++ gap ++ (name ++ later) ∧ gap ≠ [] ∧ (∀ b ∈ gap, isBlank b = true) ∧
      name ≠ [] ∧ (∀ c ∈ name, isWordChar c = true) ∧ later.head?.any isWordChar = false := by
  constructor
  . intro h
    simp only [afterDefinition?] at h
    split at h
    . next rest hrest =>
      obtain ⟨gap, rfl, hne, hblank, -⟩ := afterKeyword?_eq_some_iff.mp hrest
      split at h
      . next hword =>
        injection h with heq
        subst heq
        refine ⟨gap, rest.takeWhile isWordChar, ?_, hne, hblank, takeWhile_ne_nil hword, ?_, ?_⟩
        . rw [List.takeWhile_append_dropWhile]
        . intro c hc
          exact List.mem_takeWhile_imp hc
        . exact head?_dropWhile isWordChar rest
      . cases h
    . cases h
  . rintro ⟨gap, name, rfl, hne, hblank, hname, hword, hlater⟩
    have hrest : afterKeyword? keyword (keyword ++ gap ++ (name ++ later)) =
        some (name ++ later) := by
      apply afterKeyword?_eq_some_iff.mpr
      refine ⟨gap, rfl, hne, hblank, ?_⟩
      cases name with
      | nil => exact absurd rfl hname
      | cons c name => exact isBlank_of_isWordChar (hword c List.mem_cons_self)
    simp only [afterDefinition?]
    rw [hrest]
    dsimp only
    rw [if_pos (head?_any_append hname hword later), dropWhile_append_of_run hword hlater]

theorem introduces_iff (hkind : ∀ c, kind c = true → isBlank c = false) :
    Introduces keyword kind s ↔
      ((afterKeyword? keyword s).any fun rest => rest.head?.any kind) = true := by
  rw [Option.any_eq_true]
  constructor
  . rintro ⟨gap, c, later, rfl, hne, hblank, hc⟩
    refine ⟨c :: later, afterKeyword?_eq_some_iff.mpr ⟨gap, rfl, hne, hblank, hkind c hc⟩, hc⟩
  . rintro ⟨rest, hrest, hhead⟩
    obtain ⟨gap, rfl, hne, hblank, -⟩ := afterKeyword?_eq_some_iff.mp hrest
    cases rest with
    | nil => cases hhead
    | cons c later => exact ⟨gap, c, later, rfl, hne, hblank, hhead⟩

theorem isSome_afterDefinition?_iff :
    (afterDefinition? keyword s).isSome = true ↔ Introduces keyword isWordChar s := by
  rw [introduces_iff fun c => isBlank_of_isWordChar, afterDefinition?]
  cases afterKeyword? keyword s with
  | none => rfl
  | some rest =>
    rw [Option.any_some]
    dsimp only
    split <;> simp_all

theorem contains_cons_iff {c : Char} : Contains keyword kind (c :: s) ↔
    Introduces keyword kind (c :: s) ∨ Contains keyword kind s := by
  simp only [contains_iff_suffix, List.suffix_cons_iff, or_and_right, exists_or, exists_eq_left]

theorem not_contains_nil : ¬Contains keyword kind [] := by
  rintro ⟨before, gap, c, later, h, -⟩
  simp at h

theorem occursBefore_iff (hkind : ∀ c, kind c = true → isBlank c = false) :
    occursBefore keyword kind s = true ↔ Contains keyword kind s := by
  induction s with
  | nil => simp [occursBefore, not_contains_nil]
  | cons c s ih =>
    rw [contains_cons_iff, introduces_iff hkind, ← ih, occursBefore, Bool.or_eq_true]

theorem countDefinitions_of_some (h : afterDefinition? keyword s = some later) :
    countDefinitions keyword s = 1 + countDefinitions keyword later := by
  cases s with
  | nil => exact absurd (length_afterDefinition?_lt h) (Nat.not_lt_zero _)
  | cons c s =>
    rw [countDefinitions]
    split
    . next hsome =>
      rw [h] at hsome
      injection hsome with heq
      rw [heq]
    . next hnone =>
      rw [h] at hnone
      cases hnone

theorem countDefinitions_of_none {c : Char} (h : afterDefinition? keyword (c :: s) = none) :
    countDefinitions keyword (c :: s) = countDefinitions keyword s := by
  rw [countDefinitions]
  split
  . next hsome =>
    rw [h] at hsome
    cases hsome
  . rfl

theorem countDefinitions_pos_iff :
    0 < countDefinitions keyword s ↔ Contains keyword isWordChar s := by
  fun_induction countDefinitions keyword s with
  | case1 => simp [not_contains_nil]
  | case2 c rest later hlater ih =>
    rw [contains_cons_iff, ← isSome_afterDefinition?_iff, hlater]
    simp only [Option.isSome_some, true_or, iff_true]
    omega
  | case3 c rest hnone ih =>
    rw [ih, contains_cons_iff, ← isSome_afterDefinition?_iff, hnone]
    simp

theorem Contains.append (h : Contains keyword kind s) (t : List Char) :
    Contains keyword kind (s ++ t) := by
  obtain ⟨before, gap, c, later, rfl, hgap⟩ := h
  exact ⟨before, gap, c, later ++ t, by simp, hgap⟩

theorem Contains.imp {kind' : Char → Bool} (h : Contains keyword kind s)
    (hkind : ∀ c, kind c = true → kind' c = true) : Contains keyword kind' s := by
  obtain ⟨before, gap, c, later, hs, hne, hblank, hc⟩ := h
  exact ⟨before, gap, c, later, hs, hne, hblank, hkind c hc⟩

theorem afterDefinition?_append (h : afterDefinition? keyword s = some later) (t : List Char) :
    afterDefinition? keyword (s ++ t) = some ((later ++ t).dropWhile isWordChar) := by
  obtain ⟨gap, name, rfl, hne, hblank, hname, hword, -⟩ := afterDefinition?_eq_some_iff.mp h
  apply afterDefinition?_eq_some_iff.mpr
  refine ⟨gap, name ++ (later ++ t).takeWhile isWordChar, ?_, hne, hblank, ?_, ?_, ?_⟩
  . simp only [List.append_assoc, List.takeWhile_append_dropWhile]
  . exact List.append_ne_nil_of_left_ne_nil hname _
  . intro c hc
    cases List.mem_append.mp hc with
    | inl hfront => exact hword c hfront
    | inr hback => exact List.mem_takeWhile_imp hback
  . exact head?_dropWhile isWordChar _

theorem not_contains_of_pairwise
    (h : s.Pairwise fun a b => isBlank a = true → isBlank b = true) :
    ¬Contains keyword isWordChar s := by
  rintro ⟨before, gap, c, later, rfl, hne, hblank, hc⟩
  obtain ⟨b, gap, rfl⟩ := List.exists_cons_of_ne_nil hne
  have hlast : isBlank c = true := by
    apply (List.pairwise_append.mp h).2.2 b (by simp) c List.mem_cons_self
    exact hblank b List.mem_cons_self
  rw [isBlank_of_isWordChar hc] at hlast
  cases hlast

/-- Where a definition only shows when a text goes on, the text ends before its name begins, so
there is no other behind its start. -/
theorem countDefinitions_eq_zero (hkeyword : ∀ c ∈ keyword, isBlank c = false) {c : Char}
    (hnone : afterDefinition? keyword (c :: s) = none)
    (hsome : Introduces keyword isWordChar (c :: s ++ t)) : countDefinitions keyword s = 0 := by
  obtain ⟨gap, d, later, htext, hne, hblank, hd⟩ := hsome
  have hprefix : c :: s <+: keyword ++ gap := by
    obtain ⟨behind, hbehind, -⟩ | ⟨behind, hbehind, hlater⟩ := List.append_eq_append_iff.mp htext
    . exact ⟨behind, hbehind.symm⟩
    . cases behind with
      | nil => simp [hbehind]
      | cons e behind =>
        -- the name would begin in front of what is added
        injection hlater with he _
        have hintroduces : Introduces keyword isWordChar (c :: s) :=
          ⟨gap, e, behind, hbehind, hne, hblank, he ▸ hd⟩
        rw [← isSome_afterDefinition?_iff, hnone] at hintroduces
        cases hintroduces
  have hordered : (keyword ++ gap).Pairwise fun a b => isBlank a = true → isBlank b = true := by
    rw [List.pairwise_append]
    refine ⟨?_, ?_, fun a _ b hb _ => hblank b hb⟩
    . apply List.pairwise_of_forall_mem_list
      intro a ha b _ hblank'
      rw [hkeyword a ha] at hblank'
      cases hblank'
    . apply List.pairwise_of_forall_mem_list
      intro a _ b hb _
      exact hblank b hb
  have hnone' : ¬Contains keyword isWordChar s :=
    not_contains_of_pairwise (hordered.sublist ((List.sublist_cons_self c s).trans hprefix.sublist))
  rw [← countDefinitions_pos_iff] at hnone'
  omega

theorem countDefinitions_le_append (hkeyword : ∀ c ∈ keyword, isBlank c = false)
    (s t : List Char) : countDefinitions keyword s ≤ countDefinitions keyword (s ++ t) := by
  fun_induction countDefinitions keyword s with
  | case1 => exact Nat.zero_le _
  | case2 c rest later hlater ih =>
    rw [countDefinitions_of_some (afterDefinition?_append hlater t)]
    apply Nat.add_le_add_left
    cases later with
    | nil =>
      rw [countDefinitions]
      exact Nat.zero_le _
    | cons d later =>
      obtain ⟨_, _, _, _, _, _, _, hd⟩ := afterDefinition?_eq_some_iff.mp hlater
      rwa [List.cons_append, List.dropWhile_cons_of_neg (by simpa using hd)]
  | case3 c rest hnone ih =>
    rw [List.cons_append]
    cases hlonger : afterDefinition? keyword (c :: (rest ++ t)) with
    | none => rwa [countDefinitions_of_none hlonger]
    | some later =>
      have hsome : Introduces keyword isWordChar (c :: rest ++ t) := by
        rw [← isSome_afterDefinition?_iff, List.cons_append, hlonger, Option.isSome_some]
      rw [countDefinitions_eq_zero hkeyword hnone hsome]
      exact Nat.zero_le _

namespace Pattern

variable {pattern : Pattern} {before after : List Char}

def startingWith (text : List Char) (pattern : Pattern) : Pattern :=
  text.foldr (fun c p => seq (char (· == c)) p) pattern

/-- A keyword, white space and a word: `keyword\s+\w+`. -/
def definition (keyword : List Char) : Pattern :=
  startingWith keyword (seq (many 1 isBlank) (many 1 isWordChar))

/-- A function with a name in small letters: `def\s+[a-z_][a-z0-9_]*`. -/
def smallDefinition : Pattern :=
  startingWith "def".toList (seq (many 1 isBlank)
    (seq (char isSmallStart) (many 0 fun c => isSmallStart c || c.isDigit)))

theorem ends_startingWith (text : List Char) : (startingWith text pattern).ends before after =
    if text.isPrefixOf after then
      (pattern.ends (before ++ text) (after.drop text.length)).map fun e => (text ++ e.1, e.2)
    else [] := by
  induction text generalizing before after with
  | nil => simp [startingWith]
  | cons c text ih =>
    cases after with
    | nil => rfl
    | cons d after =>
      have hrest := @ih (before ++ [d]) after
      rw [startingWith, List.foldr_cons, ends_char_seq]
      rw [startingWith] at hrest
      rw [hrest, List.isPrefixOf_cons_cons]
      by_cases hd : d = c
      . subst hd
        by_cases htext : text.isPrefixOf after = true
        . simp [htext]
        . simp [htext]
      . simp [hd, Ne.symm hd]

theorem takes_startingWith {text taken : List Char} :
    (startingWith text pattern).Takes before taken after ↔
      ∃ rest, taken = text ++ rest ∧ pattern.Takes (before ++ text) rest after := by
  induction text generalizing before taken with
  | nil => simp [startingWith]
  | cons c text ih =>
    rw [startingWith, List.foldr_cons, Takes]
    constructor
    . rintro ⟨_, stop, rfl, ⟨d, hd, rfl⟩, hstop⟩
      obtain ⟨rest, rfl, hrest⟩ := ih.mp hstop
      obtain rfl := beq_iff_eq.mp hd
      exact ⟨rest, rfl, by simpa using hrest⟩
    . rintro ⟨rest, rfl, hrest⟩
      have hrest' : pattern.Takes (before ++ [c] ++ text) rest after := by simpa using hrest
      exact ⟨[c], text ++ rest, rfl, ⟨c, beq_self_eq_true c, rfl⟩, ih.mpr ⟨rest, rfl, hrest'⟩⟩

/-- Where a pattern cannot begin with a character of a kind, characters of that kind in front of it
are taken to their end. -/
theorem ends_many_seq (hpattern : ∀ before c rest, kind c = true →
    pattern.ends before (c :: rest) = []) (n : Nat) :
    (seq (many n kind) pattern).ends before after =
      if n ≤ (after.takeWhile kind).length then
        (pattern.ends (before ++ after.takeWhile kind) (after.dropWhile kind)).map
          fun e => (after.takeWhile kind ++ e.1, e.2)
      else [] := by
  rw [ends_seq, ends]
  induction after generalizing before n with
  | nil => by_cases hn : n = 0 <;> simp [endsOfMany, hn]
  | cons c rest ih =>
    rw [endsOfMany, List.flatMap_append]
    by_cases hc : kind c = true
    . -- to stop in front of this character is no way, as the pattern cannot begin with it
      have hstop : ((if n = 0 then [([], c :: rest)] else []).flatMap
          fun e : List Char × List Char =>
            (pattern.ends (before ++ e.1) e.2).map fun e' => (e.1 ++ e'.1, e'.2)) = [] := by
        by_cases hn : n = 0 <;> simp [hn, hpattern before c rest hc]
      have hgo : (((endsOfMany kind (n - 1) rest).map fun e => (c :: e.1, e.2)).flatMap fun e =>
            (pattern.ends (before ++ e.1) e.2).map fun e' => (e.1 ++ e'.1, e'.2)) =
          ((endsOfMany kind (n - 1) rest).flatMap fun e =>
            (pattern.ends (before ++ [c] ++ e.1) e.2).map fun e' => (e.1 ++ e'.1, e'.2)).map
              fun e => (c :: e.1, e.2) := by
        rw [List.flatMap_map, List.map_flatMap]
        simp [Function.comp_def]
      have hlength : n - 1 ≤ (rest.takeWhile kind).length ↔
          n ≤ (rest.takeWhile kind).length + 1 := by omega
      rw [if_pos hc, hstop, List.append_nil, hgo, ih, List.takeWhile_cons_of_pos hc,
        List.dropWhile_cons_of_pos hc, List.length_cons]
      by_cases hn : n ≤ (rest.takeWhile kind).length + 1
      . simp [hlength, hn]
      . simp [hlength, hn]
    . by_cases hn : n = 0
      . simp [hc, hn]
      . simp [hc, hn]

theorem head?_endsOfMany_one (kind : Char → Bool) (s : List Char) :
    (endsOfMany kind 1 s).head? =
      if s.head?.any kind then some (s.takeWhile kind, s.dropWhile kind) else none := by
  cases s with
  | nil => rfl
  | cons c s =>
    rw [endsOfMany]
    by_cases hc : kind c = true
    . simp [hc, head?_endsOfMany]
    . simp [hc]

theorem one_le_length_takeWhile_iff : 1 ≤ (s.takeWhile kind).length ↔ s.head?.any kind = true := by
  cases s with
  | nil => simp
  | cons c s => by_cases hc : kind c = true <;> simp [hc]

theorem head?_ends_definition (keyword before s : List Char) :
    ((definition keyword).ends before s).head?.map (·.2) = afterDefinition? keyword s := by
  have hword : ∀ before c rest, isBlank c = true →
      (many 1 isWordChar).ends before (c :: rest) = [] := by
    intro before c rest hc
    simp [ends, endsOfMany, isWordChar_of_isBlank c hc]
  rw [definition, ends_startingWith, ends_many_seq hword, afterDefinition?, afterKeyword?]
  by_cases hprefix : keyword.isPrefixOf s = true
  . rw [if_pos hprefix, if_pos hprefix]
    dsimp only
    by_cases hblank : (s.drop keyword.length).head?.any isBlank = true
    . rw [if_pos (one_le_length_takeWhile_iff.mpr hblank), if_pos hblank, List.head?_map,
        List.head?_map, ends, head?_endsOfMany_one]
      dsimp only
      split <;> rfl
    . rw [if_neg (by rwa [one_le_length_takeWhile_iff]), if_neg hblank]
      rfl
  . rw [if_neg hprefix, if_neg hprefix]
    rfl

theorem length_find_definition (keyword before s : List Char) :
    ((definition keyword).find before s).length = countDefinitions keyword s := by
  fun_induction countDefinitions keyword s generalizing before with
  | case1 => rw [find_nil, List.length_nil]
  | case2 c rest later hlater ih =>
    have hhead := head?_ends_definition keyword before (c :: rest)
    rw [hlater] at hhead
    obtain ⟨⟨taken, _⟩, hends, rfl⟩ := Option.map_eq_some_iff.mp hhead
    have hlength := Nat.le_of_lt_succ (length_afterDefinition?_lt hlater)
    rw [find_cons_of_head? hends hlength, List.length_cons, ih, Nat.add_comm]
  | case3 c rest hnone ih =>
    have hhead := head?_ends_definition keyword before (c :: rest)
    rw [hnone, Option.map_eq_none_iff, List.head?_eq_none_iff] at hhead
    rw [find_cons_of_ends_eq_nil hhead, ih]

theorem exists_occurs_iff {more : Char → Bool} :
    (∃ o, (startingWith keyword
      (seq (many 1 isBlank) (seq (char kind) (many 0 more)))).Occurs s o) ↔
      Contains keyword kind s := by
  constructor
  . rintro ⟨⟨before, taken, after⟩, htext, htakes⟩
    obtain ⟨_, rfl, gap, _, rfl, ⟨hlength, hblank⟩, _, rest, rfl, ⟨c, hc, rfl⟩, -⟩ :=
      takes_startingWith.mp htakes
    refine ⟨before, gap, c, rest ++ after, ?_, List.ne_nil_of_length_pos hlength, hblank, hc⟩
    rw [← htext]
    simp
  . rintro ⟨before, gap, c, later, rfl, hne, hblank, hc⟩
    refine ⟨⟨before, keyword ++ (gap ++ [c]), later⟩, ?_, ?_⟩
    . simp
    . apply takes_startingWith.mpr
      refine ⟨gap ++ [c], rfl, gap, [c], rfl, ⟨List.length_pos_of_ne_nil hne, hblank⟩, [c], [],
        rfl, ⟨c, hc, rfl⟩, Nat.zero_le _, ?_⟩
      simp

end Pattern

end CodeAppraisal.Text
