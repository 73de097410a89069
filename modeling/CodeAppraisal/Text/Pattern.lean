import CodeAppraisal.Text.Blank
import CodeAppraisal.Text.Word

/-!
Patterns that are looked for in a text as it stands, without reading it as a program.
-/
namespace CodeAppraisal.Text

def occursIn (pattern : List Char) : List Char → Bool
  | [] => pattern.isEmpty
  | c :: rest => pattern.isPrefixOf (c :: rest) || occursIn pattern rest

def dropLine (s : List Char) : List Char := s.dropWhile (· != '\n')

def countComments (s : List Char) : Nat :=
  match s with
  | [] => 0
  | c :: rest => if c = '#' then 1 + countComments (dropLine rest) else countComments rest
termination_by s.length
decreasing_by
  · exact Nat.lt_succ_of_le (List.dropWhile_suffix _).length_le
  · simp

def afterKeyword? (keyword s : List Char) : Option (List Char) :=
  if keyword.isPrefixOf s then
    let rest := s.drop keyword.length
    if rest.head?.any isBlank then some (rest.dropWhile isBlank) else none
  else none

def afterDefinition? (keyword s : List Char) : Option (List Char) :=
  match afterKeyword? keyword s with
  | some rest => if rest.head?.any isWordChar then some (rest.dropWhile isWordChar) else none
  | none => none

theorem length_afterKeyword?_le {keyword s rest : List Char}
    (h : afterKeyword? keyword s = some rest) : rest.length ≤ s.length := by
  simp only [afterKeyword?] at h
  split at h
  · split at h
    · cases h
      exact Nat.le_trans (List.dropWhile_suffix _).length_le (by simp)
    · cases h
  · cases h

theorem length_afterDefinition?_lt {keyword s rest : List Char}
    (h : afterDefinition? keyword s = some rest) : rest.length < s.length := by
  simp only [afterDefinition?] at h
  split at h
  next after hafter =>
    have hle := length_afterKeyword?_le hafter
    split at h
    next hword =>
      cases h
      cases after with
      | nil => simp at hword
      | cons c cs =>
        have : (cs.dropWhile isWordChar).length ≤ cs.length :=
          (List.dropWhile_suffix _).length_le
        have hc : isWordChar c = true := by simpa using hword
        simp only [List.dropWhile_cons, hc, if_true]
        simp only [List.length_cons] at hle
        omega
    · cases h
  · cases h

def countDefinitions (keyword s : List Char) : Nat :=
  match s with
  | [] => 0
  | c :: rest =>
    match _h : afterDefinition? keyword (c :: rest) with
    | some later => 1 + countDefinitions keyword later
    | none => countDefinitions keyword rest
termination_by s.length
decreasing_by
  · exact length_afterDefinition?_lt ‹_›
  · simp

def occursBefore (keyword : List Char) (kind : Char → Bool) : List Char → Bool
  | [] => false
  | c :: rest =>
    ((afterKeyword? keyword (c :: rest)).any fun after => after.head?.any kind) ||
      occursBefore keyword kind rest

end CodeAppraisal.Text
