import CodeAppraisal.Smell.MagicNumbers
import CodeAppraisal.Proofs.Text.CodePointRanges
import CodeAppraisal.Proofs.Text.Words

/-!
This module shows that a search for numbers of two and more digits between word boundaries finds
just those words of a text that have nothing but digits, and that these make magic numbers.
-/
namespace CodeAppraisal

theorem isMagicNumber_iff {word : List Char} : isMagicNumber word = true ↔
    2 ≤ word.length ∧ ∀ c ∈ word, Text.isDecimalDigit c = true := by
  simp [isMagicNumber]

namespace Text

section Runs

variable {kind : Char → Bool} {s : List Char}

theorem eq_false_of_isWordChar (hkind : ∀ c, kind c = true → isWordChar c = true) {c : Char}
    (hc : isWordChar c = false) : kind c = false := by
  rw [Bool.eq_false_iff]
  intro h
  rw [hkind c h] at hc
  cases hc

theorem span_eq_of_word (hkind : ∀ c, kind c = true → isWordChar c = true)
    (h : ∀ c ∈ s.takeWhile isWordChar, kind c = true) :
    s.takeWhile kind = s.takeWhile isWordChar ∧ s.dropWhile kind = s.dropWhile isWordChar := by
  have hafter : (s.dropWhile isWordChar).head?.any kind = false := by
    have hword := head?_dropWhile isWordChar s
    cases hhead : (s.dropWhile isWordChar).head? with
    | none => rfl
    | some c =>
      rw [hhead, Option.any_some] at hword
      exact eq_false_of_isWordChar hkind hword
  have htake := takeWhile_append_of_run h hafter
  have hdrop := dropWhile_append_of_run h hafter
  rw [List.takeWhile_append_dropWhile] at htake hdrop
  exact ⟨htake, hdrop⟩

theorem word_of_kind_iff (hkind : ∀ c, kind c = true → isWordChar c = true) :
    (∀ c ∈ s.takeWhile isWordChar, kind c = true) ↔
      (s.dropWhile kind).head?.any isWordChar = false := by
  constructor
  . intro h
    rw [(span_eq_of_word hkind h).2]
    exact head?_dropWhile isWordChar s
  . intro h c hc
    have hword : ∀ c ∈ s.takeWhile kind, isWordChar c = true :=
      fun c hc => hkind c (List.mem_takeWhile_imp hc)
    have htake := takeWhile_append_of_run hword h
    rw [List.takeWhile_append_dropWhile] at htake
    rw [htake] at hc
    exact List.mem_takeWhile_imp hc

end Runs

namespace Pattern

/-- Two decimal digits, as many more as there are, and a boundary on either side: `\b\d{2,}\b`. -/
def number : Pattern := seq boundary (seq (many 2 isDecimalDigit) boundary)

theorem number_takesWords : number.TakesWords isMagicNumber := by
  have hdigit := isWordChar_of_isDecimalDigit
  unfold number
  constructor
  . intro before c rest hlast hc
    have hstart : atBoundary before (c :: rest) = true := by simp [atBoundary, hlast, hc]
    rw [ends_boundary_seq, if_pos hstart, ends_many_boundary hdigit (by simp),
      ← List.takeWhile_cons_of_pos hc, ← List.dropWhile_cons_of_pos hc]
    by_cases hmagic : isMagicNumber ((c :: rest).takeWhile isWordChar) = true
    . obtain ⟨hlong, hall⟩ := isMagicNumber_iff.mp hmagic
      obtain ⟨htake, hdrop⟩ := span_eq_of_word hdigit hall
      rw [if_pos hmagic, htake, hdrop, if_pos ⟨hlong, head?_dropWhile isWordChar (c :: rest)⟩]
    . rw [if_neg hmagic, if_neg]
      rintro ⟨hlong, hhead⟩
      have hall := (word_of_kind_iff hdigit).mpr hhead
      rw [(span_eq_of_word hdigit hall).1] at hlong
      exact hmagic (isMagicNumber_iff.mpr ⟨hlong, hall⟩)
  . intro before c rest hlast hc
    rw [ends_boundary_seq, atBoundary_of_word hlast]
    simp [hc]
  . intro before c rest hc
    rw [ends_boundary_seq, ends_many_boundary hdigit (by simp)]
    simp [eq_false_of_isWordChar hdigit hc]

theorem number_ends_nil (before : List Char) : number.ends before [] = [] := by
  rw [number, ends_boundary_seq, ends_many_boundary isWordChar_of_isDecimalDigit (by simp)]
  simp

end Pattern

end Text

open Text Parsing

theorem hasMagicNumber_append (before : List Char) {c : Char} (hc : isWordChar c = false)
    (after : List Char) : hasMagicNumber (before ++ c :: after) =
      (hasMagicNumber before || hasMagicNumber after) := by
  simp only [hasMagicNumber, words_append before hc, List.any_append]

theorem hasMagicNumber_iff {text : List Char} : hasMagicNumber text = true ↔
    ∃ o, IsWord text o ∧ isMagicNumber o.taken = true := by
  rw [hasMagicNumber, ← map_taken_placedWords [], List.any_map, List.any_eq_true]
  simp only [mem_placedWords_iff, Function.comp_apply]

theorem number_occurs_iff {text : List Char} {o : Occurrence} :
    Pattern.number.Occurs text o ↔ IsWord text o ∧ isMagicNumber o.taken = true :=
  Pattern.number_takesWords.occurs_iff Pattern.number_ends_nil

theorem mem_find_number {text : List Char} {o : Occurrence} :
    o ∈ Pattern.number.find [] text ↔ Pattern.number.Occurs text o := by
  rw [Pattern.number_takesWords.find_eq (by simp), List.mem_filter, mem_placedWords_iff,
    number_occurs_iff]

/-- Numbers of two and more digits between word boundaries are the words that have digits only, and
are what a search finds. Where there is one the module has magic numbers, and where there is none it
has not. What is no word character parts a text into two that are judged each by itself. -/
theorem magicNumbers_of_words (m : SourceModule) :
    let text := m.source.chars.toList
    (∀ o, Pattern.number.Occurs text o ↔
        IsWord text o ∧ 2 ≤ o.taken.length ∧ ∀ c ∈ o.taken, isDecimalDigit c = true) ∧
      (∀ o, o ∈ Pattern.number.find [] text ↔ Pattern.number.Occurs text o) ∧
      (magicNumbers m = [.magicNumbers] ↔ ∃ o, Pattern.number.Occurs text o) ∧
      (magicNumbers m = [] ↔ ¬ ∃ o, Pattern.number.Occurs text o) ∧
      ∀ before c after, text = before ++ c :: after → isWordChar c = false →
        hasMagicNumber text = (hasMagicNumber before || hasMagicNumber after) := by
  intro text
  have hfires : hasMagicNumber text = true ↔ ∃ o, Pattern.number.Occurs text o := by
    simp only [hasMagicNumber_iff, number_occurs_iff]
  refine ⟨?_, ?_, ?_, ?_, ?_⟩
  . intro o
    rw [number_occurs_iff, isMagicNumber_iff]
  . intro o
    exact mem_find_number
  . rw [← hfires]
    simp [magicNumbers, text]
  . rw [← hfires]
    simp [magicNumbers, text]
  . intro before c after htext hc
    rw [htext]
    exact hasMagicNumber_append before hc after

def portText : SourceModule := ⟨Source.ofString "x12 = 10_0 + 7 # port-42", default⟩

theorem magicNumbers_of_words_port :
    magicNumbers portText = [.magicNumbers] ∧
      ⟨"x12 = 10_0 + 7 # port-".toList, "42".toList, []⟩ ∈
        Pattern.number.find [] portText.source.chars.toList ∧
      isWordChar '-' = false ∧ hasMagicNumber portText.source.chars.toList =
        (hasMagicNumber "x12 = 10_0 + 7 # port".toList || hasMagicNumber "42".toList) := by
  obtain ⟨hoccurs, hfind, hfires, -, hparts⟩ := magicNumbers_of_words portText
  have hword : Pattern.number.Occurs portText.source.chars.toList
      ⟨"x12 = 10_0 + 7 # port-".toList, "42".toList, []⟩ := by
    apply (hoccurs _).mpr
    refine ⟨?_, by decide, List.all_eq_true.mp (by decide)⟩
    constructor
    . rfl
    . decide
    . exact List.all_eq_true.mp (by decide)
    . decide
    . decide
  refine ⟨hfires.mpr ⟨_, hword⟩, (hfind _).mpr hword, by decide, ?_⟩
  exact hparts _ '-' _ (by decide) (by decide)

end CodeAppraisal
