import CodeAppraisal.Text.Word

/-!
This module has patterns of single characters and word boundaries and a search for them that goes
through a text from left to right and prefers long matches to short ones. The ways in which it lets
a pattern begin at a place are just those in which the pattern can take a part of the text there.
-/
namespace CodeAppraisal.Text

inductive Pattern where
  | boundary
  | char (kind : Char → Bool)
  | many (least : Nat) (kind : Char → Bool)
  | seq (first second : Pattern)

structure Occurrence where
  before : List Char
  taken : List Char
  after : List Char
  deriving DecidableEq, Repr

def atBoundary (before after : List Char) : Bool :=
  before.getLast?.any isWordChar != after.head?.any isWordChar

theorem atBoundary_of_word {before : List Char} (h : before.getLast?.any isWordChar = true)
    (after : List Char) : atBoundary before after = !after.head?.any isWordChar := by
  rw [atBoundary, h, Bool.true_bne]

namespace Pattern

def endsOfMany (kind : Char → Bool) (least : Nat) : List Char → List (List Char × List Char)
  | [] => if least = 0 then [([], [])] else []
  | c :: after =>
    (if kind c then (endsOfMany kind (least - 1) after).map fun e => (c :: e.1, e.2) else []) ++
      if least = 0 then [([], c :: after)] else []

/-- The ways in which a pattern can begin between two parts of a text, the preferred one first: what
it takes, and what is left. -/
def ends (before after : List Char) : Pattern → List (List Char × List Char)
  | boundary => if atBoundary before after then [([], after)] else []
  | char kind =>
    match after with
    | [] => []
    | c :: rest => if kind c then [([c], rest)] else []
  | many least kind => endsOfMany kind least after
  | seq first second =>
    (first.ends before after).flatMap fun e =>
      (second.ends (before ++ e.1) e.2).map fun e' => (e.1 ++ e'.1, e'.2)

def Takes (before taken after : List Char) : Pattern → Prop
  | boundary => taken = [] ∧ atBoundary before after = true
  | char kind => ∃ c, kind c = true ∧ taken = [c]
  | many least kind => least ≤ taken.length ∧ ∀ c ∈ taken, kind c = true
  | seq first second => ∃ start stop, start ++ stop = taken ∧
      first.Takes before start (stop ++ after) ∧ second.Takes (before ++ start) stop after

def Occurs (pattern : Pattern) (text : List Char) (o : Occurrence) : Prop :=
  o.before ++ o.taken ++ o.after = text ∧ pattern.Takes o.before o.taken o.after

/-- The occurrences from a place on: the first place at which the pattern can begin, in the way that
is preferred there, and so on from its end. A way that takes nothing does not count. -/
def find (pattern : Pattern) (before after : List Char) : List Occurrence :=
  match after with
  | [] => []
  | c :: rest =>
    match (pattern.ends before (c :: rest)).head? with
    | some (taken, later) =>
      if later.length ≤ rest.length then
        ⟨before, taken, later⟩ :: pattern.find (before ++ taken) later
      else pattern.find (before ++ [c]) rest
    | none => pattern.find (before ++ [c]) rest
termination_by after.length

variable {pattern : Pattern} {before after rest : List Char} {c : Char}

theorem ends_boundary :
    boundary.ends before after = if atBoundary before after then [([], after)] else [] := rfl

theorem ends_char_cons {kind : Char → Bool} :
    (char kind).ends before (c :: rest) = if kind c then [([c], rest)] else [] := rfl

theorem ends_seq {first second : Pattern} : (seq first second).ends before after =
    (first.ends before after).flatMap fun e =>
      (second.ends (before ++ e.1) e.2).map fun e' => (e.1 ++ e'.1, e'.2) := rfl

theorem mem_endsOfMany {kind : Char → Bool} {least : Nat} {taken later : List Char} :
    (taken, later) ∈ endsOfMany kind least after ↔
      taken ++ later = after ∧ least ≤ taken.length ∧ ∀ c ∈ taken, kind c = true := by
  induction after generalizing least taken with
  | nil =>
    rw [endsOfMany, List.append_eq_nil_iff]
    by_cases hleast : least = 0 <;> simp +contextual [hleast]
  | cons c after ih =>
    have hgo : (taken, later) ∈ endsOfMany kind least (c :: after) ↔
        (∃ rest, kind c = true ∧ (rest, later) ∈ endsOfMany kind (least - 1) after ∧
          c :: rest = taken) ∨ (least = 0 ∧ taken = [] ∧ later = c :: after) := by
      rw [endsOfMany, List.mem_append]
      cases kind c <;> by_cases hleast : least = 0 <;> simp [hleast]
    rw [hgo]
    constructor
    . rintro (⟨rest, hc, hmem, rfl⟩ | ⟨rfl, rfl, rfl⟩)
      . obtain ⟨rfl, hleast, hall⟩ := ih.mp hmem
        exact ⟨rfl, Nat.le_add_of_sub_le hleast, List.forall_mem_cons.mpr ⟨hc, hall⟩⟩
      . simp
    . rintro ⟨htext, hleast, hall⟩
      cases taken with
      | nil =>
        right
        exact ⟨Nat.le_zero.mp hleast, rfl, htext⟩
      | cons d rest =>
        obtain ⟨rfl, hrest⟩ := List.cons.inj htext
        rw [List.forall_mem_cons] at hall
        left
        exact ⟨rest, hall.1, ih.mpr ⟨hrest, Nat.sub_le_of_le_add hleast, hall.2⟩, rfl⟩

theorem mem_ends_iff {taken later : List Char} : (taken, later) ∈ pattern.ends before after ↔
    taken ++ later = after ∧ pattern.Takes before taken later := by
  induction pattern generalizing before after taken later with
  | boundary =>
    rw [ends_boundary, Takes]
    constructor
    . intro h
      split at h
      . next hat =>
        obtain ⟨rfl, rfl⟩ := Prod.mk.inj (List.mem_singleton.mp h)
        exact ⟨rfl, rfl, hat⟩
      . cases h
    . rintro ⟨rfl, rfl, hat⟩
      rw [List.nil_append, if_pos hat]
      exact List.mem_singleton.mpr rfl
  | char kind =>
    rw [Takes]
    constructor
    . intro h
      cases after with
      | nil => cases h
      | cons c rest =>
        rw [ends_char_cons] at h
        split at h
        . next hc =>
          obtain ⟨rfl, rfl⟩ := Prod.mk.inj (List.mem_singleton.mp h)
          exact ⟨rfl, c, hc, rfl⟩
        . cases h
    . rintro ⟨rfl, c, hc, rfl⟩
      rw [List.singleton_append, ends_char_cons, if_pos hc]
      exact List.mem_singleton.mpr rfl
  | many least kind => exact mem_endsOfMany
  | seq first second ih ih' =>
    rw [ends_seq, Takes]
    simp only [List.mem_flatMap, List.mem_map, Prod.mk.injEq, Prod.exists, ih, ih']
    constructor
    . rintro ⟨start, rest, ⟨rfl, hfirst⟩, stop, _, ⟨rfl, hsecond⟩, rfl, rfl⟩
      exact ⟨List.append_assoc .., start, stop, rfl, hfirst, hsecond⟩
    . rintro ⟨rfl, start, stop, rfl, hfirst, hsecond⟩
      exact ⟨start, stop ++ later, ⟨(List.append_assoc ..).symm, hfirst⟩, stop, later,
        ⟨rfl, hsecond⟩, rfl, rfl⟩

theorem find_nil : pattern.find before [] = [] := by
  unfold find
  rfl

theorem find_cons_of_ends_eq_nil (h : pattern.ends before (c :: rest) = []) :
    pattern.find before (c :: rest) = pattern.find (before ++ [c]) rest := by
  rw [find, h]
  rfl

theorem find_cons_of_head? {taken later : List Char}
    (h : (pattern.ends before (c :: rest)).head? = some (taken, later))
    (hlength : later.length ≤ rest.length) :
    pattern.find before (c :: rest) =
      ⟨before, taken, later⟩ :: pattern.find (before ++ taken) later := by
  rw [find, h]
  dsimp only
  rw [if_pos hlength]

theorem find_cons_of_ends_eq_singleton {taken later : List Char}
    (h : pattern.ends before (c :: rest) = [(taken, later)])
    (hlength : later.length ≤ rest.length) :
    pattern.find before (c :: rest) =
      ⟨before, taken, later⟩ :: pattern.find (before ++ taken) later := by
  apply find_cons_of_head? _ hlength
  rw [h, List.head?_cons]

theorem head?_endsOfMany (kind : Char → Bool) (s : List Char) :
    (endsOfMany kind 0 s).head? = some (s.takeWhile kind, s.dropWhile kind) := by
  induction s with
  | nil => rfl
  | cons c s ih =>
    rw [endsOfMany, List.head?_append]
    by_cases hc : kind c = true
    . simp [hc, ih]
    . simp [hc]

end Pattern

end CodeAppraisal.Text
