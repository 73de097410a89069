import CodeAppraisal.Text.Utf8
import Mathlib.Data.List.Forall2
import Mathlib.Tactic.SplitIfs

/-!
This module shows that bytes have no fault exactly if they are the bytes of a text, and that the
first fault is where a text ends and no character goes on.
-/
namespace CodeAppraisal.Text

open String

theorem ByteRange.contains_iff {r : ByteRange} {b : UInt8} :
    r.contains b ↔ r.low.toNat ≤ b.toNat ∧ b.toNat ≤ r.high.toNat := by
  simp [contains, UInt8.le_iff_toNat_le]

def InRanges : List ByteRange → List UInt8 → Prop := List.Forall₂ fun r b => r.contains b

@[simp]
theorem inRanges_nil {bs : List UInt8} : InRanges [] bs ↔ bs = [] := by
  simp [InRanges]

@[simp]
theorem inRanges_cons {r : ByteRange} {rs : List ByteRange} {bs : List UInt8} :
    InRanges (r :: rs) bs ↔
      ∃ b bs', (r.low.toNat ≤ b.toNat ∧ b.toNat ≤ r.high.toNat) ∧ InRanges rs bs' ∧
        bs = b :: bs' := by
  simp [InRanges, List.forall₂_cons_left_iff, ByteRange.contains_iff]

def Completes (b : UInt8) (bs : List UInt8) : Prop :=
  ∃ rs, followers b = some rs ∧ InRanges rs bs

/-!
Both the table of first bytes and the encoding of characters come down to arithmetic, for characters
of one byte, of two, of three and of four.
-/

section Shapes

variable {b : UInt8} {c : Char}

@[simp]
theorem low_continuation : continuation.low.toNat = 0x80 := rfl

@[simp]
theorem high_continuation : continuation.high.toNat = 0xbf := rfl

theorem completes_iff_ranges {bs : List UInt8} :
    Completes b bs ↔
      match bs with
      | [] => b.toNat < 0x80
      | [x] => (0xc2 ≤ b.toNat ∧ b.toNat < 0xe0) ∧ 0x80 ≤ x.toNat ∧ x.toNat ≤ 0xbf
      | [x, y] =>
        (0xe0 ≤ b.toNat ∧ b.toNat < 0xf0) ∧ (0x80 ≤ x.toNat ∧ x.toNat ≤ 0xbf) ∧
          (0x80 ≤ y.toNat ∧ y.toNat ≤ 0xbf) ∧ (b.toNat = 0xe0 → 0xa0 ≤ x.toNat) ∧
          (b.toNat = 0xed → x.toNat ≤ 0x9f)
      | [x, y, z] =>
        (0xf0 ≤ b.toNat ∧ b.toNat ≤ 0xf4) ∧ (0x80 ≤ x.toNat ∧ x.toNat ≤ 0xbf) ∧
          (0x80 ≤ y.toNat ∧ y.toNat ≤ 0xbf) ∧ (0x80 ≤ z.toNat ∧ z.toNat ≤ 0xbf) ∧
          (b.toNat = 0xf0 → 0x90 ≤ x.toNat) ∧ (b.toNat = 0xf4 → x.toNat ≤ 0x8f)
      | _ :: _ :: _ :: _ :: _ => False := by
  unfold Completes
  fun_cases followers b
  -- a row of the table lets one number of bytes follow, so it is about one of the shapes
  all_goals
    simp only [UInt8.lt_iff_toNat_lt, ← UInt8.toNat_inj, UInt8.reduceToNat] at *
    match bs with
    | [] | [_] | [_, _] | [_, _, _] | _ :: _ :: _ :: _ :: _ =>
      simp
      try omega

theorem eq_ofNat_iff {n : Nat} (h : n < 256) : UInt8.ofNat n = b ↔ b.toNat = n := by
  rw [← UInt8.toNat_inj, UInt8.toNat_ofNat_of_lt' h, eq_comm]

theorem encode_eq :
    utf8EncodeChar c =
      if c.toNat ≤ 0x7f then [.ofNat c.toNat]
      else if c.toNat ≤ 0x7ff then
        [.ofNat (c.toNat / 64 % 0x20 + 0xc0), .ofNat (c.toNat % 0x40 + 0x80)]
      else if c.toNat ≤ 0xffff then
        [.ofNat (c.toNat / 4096 % 0x10 + 0xe0), .ofNat (c.toNat / 64 % 0x40 + 0x80),
          .ofNat (c.toNat % 0x40 + 0x80)]
      else
        [.ofNat (c.toNat / 262144 % 0x08 + 0xf0), .ofNat (c.toNat / 4096 % 0x40 + 0x80),
          .ofNat (c.toNat / 64 % 0x40 + 0x80), .ofNat (c.toNat % 0x40 + 0x80)] :=
  rfl

theorem encode_eq_cons_iff {bs : List UInt8} :
    utf8EncodeChar c = b :: bs ↔
      match bs with
      | [] => b.toNat < 0x80 ∧ c.toNat = b.toNat
      | [x] =>
        (0xc2 ≤ b.toNat ∧ b.toNat < 0xe0) ∧ (0x80 ≤ x.toNat ∧ x.toNat ≤ 0xbf) ∧
          c.toNat = (b.toNat - 0xc0) * 64 + (x.toNat - 0x80)
      | [x, y] =>
        (0xe0 ≤ b.toNat ∧ b.toNat < 0xf0) ∧ (0x80 ≤ x.toNat ∧ x.toNat ≤ 0xbf) ∧
          (0x80 ≤ y.toNat ∧ y.toNat ≤ 0xbf) ∧ 0x800 ≤ c.toNat ∧
          c.toNat = (b.toNat - 0xe0) * 4096 + (x.toNat - 0x80) * 64 + (y.toNat - 0x80)
      | [x, y, z] =>
        (0xf0 ≤ b.toNat ∧ b.toNat ≤ 0xf4) ∧ (0x80 ≤ x.toNat ∧ x.toNat ≤ 0xbf) ∧
          (0x80 ≤ y.toNat ∧ y.toNat ≤ 0xbf) ∧ (0x80 ≤ z.toNat ∧ z.toNat ≤ 0xbf) ∧
          0x10000 ≤ c.toNat ∧ c.toNat = (b.toNat - 0xf0) * 262144 +
            (x.toNat - 0x80) * 4096 + (y.toNat - 0x80) * 64 + (z.toNat - 0x80)
      | _ :: _ :: _ :: _ :: _ => False := by
  have hvalid : c.toNat < 0xd800 ∨ 0xdfff < c.toNat ∧ c.toNat < 0x110000 := c.valid
  rw [encode_eq]
  split_ifs
  all_goals
    match bs with
    | [] | [_] | [_, _] | [_, _, _] | _ :: _ :: _ :: _ :: _ =>
      simp (disch := omega) only [List.cons.injEq, eq_ofNat_iff, reduceCtorEq, and_true, and_false,
        false_iff]
      try omega

end Shapes

theorem exists_char {v : Nat} (h : v < 0xd800 ∨ 0xdfff < v ∧ v < 0x110000) :
    ∃ c : Char, c.toNat = v :=
  ⟨Char.ofNatAux v h, rfl⟩

theorem completes_iff {b : UInt8} {bs : List UInt8} :
    Completes b bs ↔ ∃ c, utf8EncodeChar c = b :: bs := by
  simp only [completes_iff_ranges, encode_eq_cons_iff]
  constructor
  case mp =>
    intro h
    match bs with
    | [] =>
      obtain ⟨c, hc⟩ := exists_char (v := b.toNat) (by omega)
      exact ⟨c, h, hc⟩
    | [x] =>
      obtain ⟨c, hc⟩ := exists_char (v := (b.toNat - 0xc0) * 64 + (x.toNat - 0x80)) (by omega)
      exact ⟨c, h.1, h.2, hc⟩
    | [x, y] =>
      obtain ⟨c, hc⟩ := exists_char
        (v := (b.toNat - 0xe0) * 4096 + (x.toNat - 0x80) * 64 + (y.toNat - 0x80)) (by omega)
      exact ⟨c, h.1, h.2.1, h.2.2.1, by omega, hc⟩
    | [x, y, z] =>
      obtain ⟨c, hc⟩ := exists_char (v := (b.toNat - 0xf0) * 262144 + (x.toNat - 0x80) * 4096 +
        (y.toNat - 0x80) * 64 + (z.toNat - 0x80)) (by omega)
      exact ⟨c, h.1, h.2.1, h.2.2.1, h.2.2.2.1, by omega, hc⟩
  case mpr =>
    rintro ⟨c, hc⟩
    have hvalid : c.toNat < 0xd800 ∨ 0xdfff < c.toNat ∧ c.toNat < 0x110000 := c.valid
    match bs with
    | [] => exact hc.1
    | [x] => exact ⟨hc.1, hc.2.1⟩
    | [x, y] => exact ⟨hc.1, hc.2.1, hc.2.2.1, by omega, by omega⟩
    | [x, y, z] => exact ⟨hc.1, hc.2.1, hc.2.2.1, hc.2.2.2.1, by omega, by omega⟩

theorem followFault?_eq_none_iff (index length : Nat) {rs : List ByteRange} {bs : List UInt8} :
    followFault? index length rs bs = none ↔ InRanges rs (bs.take rs.length) := by
  induction rs generalizing bs length with
  | nil => simp [followFault?]
  | cons r rs ih =>
    cases bs with
    | nil => simp [followFault?]
    | cons b bs =>
      rw [followFault?]
      split
      next h =>
        rw [ByteRange.contains_iff] at h
        simp [ih, h]
      next h =>
        rw [ByteRange.contains_iff] at h
        simp [h]

def IsText (bytes : List UInt8) : Prop := ∃ cs : List Char, cs.flatMap utf8EncodeChar = bytes

theorem completes_of_encode_append {c : Char} {rest : List UInt8} {b : UInt8} {bs : List UInt8}
    (h : utf8EncodeChar c ++ rest = b :: bs) :
    ∃ rs, followers b = some rs ∧ InRanges rs (bs.take rs.length) ∧ bs.drop rs.length = rest := by
  obtain ⟨b', bs', hc⟩ := List.exists_cons_of_length_pos (l := utf8EncodeChar c)
    (by rw [length_utf8EncodeChar]; exact c.utf8Size_pos)
  rw [hc, List.cons_append, List.cons.injEq] at h
  obtain ⟨rfl, rfl⟩ := h
  obtain ⟨rs, hrs, hbs'⟩ := completes_iff.mpr ⟨c, hc⟩
  refine ⟨rs, hrs, ?_⟩
  rw [List.Forall₂.length_eq hbs', List.take_left, List.drop_left]
  exact ⟨hbs', rfl⟩

theorem isText_cons_iff {b : UInt8} {bs : List UInt8} :
    IsText (b :: bs) ↔
      ∃ rs, followers b = some rs ∧ InRanges rs (bs.take rs.length) ∧
        IsText (bs.drop rs.length) := by
  constructor
  case mp =>
    rintro ⟨_ | ⟨c, cs⟩, hcs⟩
    . cases hcs
    . rw [List.flatMap_cons] at hcs
      obtain ⟨rs, hrs, hbs, hrest⟩ := completes_of_encode_append hcs
      exact ⟨rs, hrs, hbs, cs, hrest.symm⟩
  case mpr =>
    rintro ⟨rs, hrs, hbs, cs, hcs⟩
    obtain ⟨c, hc⟩ := completes_iff.mp ⟨rs, hrs, hbs⟩
    refine ⟨c :: cs, ?_⟩
    rw [List.flatMap_cons, hc, hcs, List.cons_append, List.take_append_drop]

theorem utf8FaultFrom?_eq_none_iff (index : Nat) {bytes : List UInt8} :
    utf8FaultFrom? index bytes = none ↔ IsText bytes := by
  fun_induction utf8FaultFrom? index bytes with
  | case1 => simpa using ⟨[], rfl⟩
  | case2 index b bs hb => simp [isText_cons_iff, hb]
  | case3 index b bs rs hb fault hfault =>
    have := @followFault?_eq_none_iff index 1 rs bs
    simp_all [isText_cons_iff]
  | case4 index b bs rs hb hfault ih =>
    rw [followFault?_eq_none_iff] at hfault
    rw [ih, isText_cons_iff]
    simp [hb, hfault]

def Utf8Fault.index : Utf8Fault → Nat
  | .invalid _ index => index
  | .incomplete index => index

theorem index_of_followFault? {index length : Nat} {rs : List ByteRange} {bs : List UInt8}
    {fault : Utf8Fault} (h : followFault? index length rs bs = some fault) :
    fault.index = index := by
  induction rs generalizing bs length with
  | nil => cases h
  | cons r rs ih =>
    cases bs with
    | nil =>
      cases h
      rfl
    | cons b bs =>
      rw [followFault?] at h
      split at h
      next => exact ih h
      next =>
        cases h
        rfl

theorem place_of_utf8FaultFrom? {index : Nat} {bytes : List UInt8} {fault : Utf8Fault}
    (h : utf8FaultFrom? index bytes = some fault) :
    ∃ text rest, bytes = text ++ rest ∧ IsText text ∧ fault.index = index + text.length ∧
      ∀ c, ¬ utf8EncodeChar c <+: rest := by
  fun_induction utf8FaultFrom? index bytes with
  | case1 => cases h
  | case2 index b bs hb =>
    cases h
    refine ⟨[], b :: bs, rfl, ⟨[], rfl⟩, rfl, ?_⟩
    rintro c ⟨rest, hc⟩
    obtain ⟨rs, hrs, -⟩ := completes_of_encode_append hc
    simp_all
  | case3 index b bs rs hb fault' hfault =>
    cases h
    refine ⟨[], b :: bs, rfl, ⟨[], rfl⟩, index_of_followFault? hfault, ?_⟩
    rintro c ⟨rest, hc⟩
    obtain ⟨rs', hrs', hbs, -⟩ := completes_of_encode_append hc
    rw [← followFault?_eq_none_iff index 1] at hbs
    simp_all
  | case4 index b bs rs hb hfault ih =>
    rw [followFault?_eq_none_iff] at hfault
    obtain ⟨text, rest, hsplit, ⟨cs, hcs⟩, hindex, hrest⟩ := ih h
    obtain ⟨c, hc⟩ := completes_iff.mp ⟨rs, hb, hfault⟩
    have hlength : (bs.take rs.length).length = rs.length := (List.Forall₂.length_eq hfault).symm
    refine ⟨b :: bs.take rs.length ++ text, rest, ?_, ⟨c :: cs, ?_⟩, ?_, hrest⟩
    . rw [List.append_assoc, ← hsplit, List.cons_append, List.take_append_drop]
    . rw [List.flatMap_cons, hc, hcs]
    . rw [hindex, List.length_append, List.length_cons, hlength]
      omega

theorem toList_loop_eq (bytes : ByteArray) (i : Nat) (seen : List UInt8) :
    ByteArray.toList.loop bytes i seen = seen.reverse ++ bytes.data.toList.drop i := by
  fun_induction ByteArray.toList.loop bytes i seen with
  | case1 i seen h ih =>
    have hi : i < bytes.data.toList.length := h
    have hget : bytes.get! i = bytes.data.toList[i] := getElem!_pos bytes.data i h
    rw [ih, hget, List.drop_eq_getElem_cons hi, List.reverse_cons, List.append_assoc]
    rfl
  | case2 i seen h =>
    have hi : bytes.data.toList.length ≤ i := Nat.le_of_not_lt h
    rw [List.drop_eq_nil_of_le hi, List.append_nil]

theorem toList_eq (bytes : ByteArray) : bytes.toList = bytes.data.toList := by
  rw [ByteArray.toList, toList_loop_eq, List.reverse_nil, List.nil_append, List.drop_zero]

theorem toByteArray_toList (bytes : ByteArray) : bytes.toList.toByteArray = bytes := by
  apply ByteArray.ext
  simp [toList_eq]

theorem isValidUTF8_iff {bytes : ByteArray} : bytes.IsValidUTF8 ↔ IsText bytes.toList := by
  constructor
  case mp =>
    rintro ⟨cs, hcs⟩
    refine ⟨cs, ?_⟩
    rw [← List.toByteArray_inj, toByteArray_toList]
    exact hcs.symm
  case mpr =>
    rintro ⟨cs, hcs⟩
    refine ⟨cs, ?_⟩
    rw [← toByteArray_toList bytes, ← hcs]
    rfl

theorem exists_text_of_fault {bytes : ByteArray} {fault : Utf8Fault}
    (h : utf8FaultFrom? 0 bytes.toList = some fault) :
    ∃ (text : String) (rest : List UInt8), bytes.toList = text.toUTF8.toList ++ rest ∧
      fault.index = text.toUTF8.size ∧ ∀ c, ¬ utf8EncodeChar c <+: rest := by
  obtain ⟨_, rest, hsplit, ⟨cs, rfl⟩, hindex, hrest⟩ := place_of_utf8FaultFrom? h
  have htext : (String.ofList cs).toUTF8 = (cs.flatMap utf8EncodeChar).toByteArray := rfl
  refine ⟨String.ofList cs, rest, ?_, ?_, hrest⟩
  . rw [hsplit, htext, toList_eq, List.toList_data_toByteArray]
  . rw [hindex, htext, List.size_toByteArray, Nat.zero_add]

theorem ofUtf8_eq_ok_iff {bytes : ByteArray} {s : String} :
    ofUtf8 bytes = .ok s ↔ bytes = s.toUTF8 := by
  unfold ofUtf8 fromUTF8?
  split
  next s' hs' =>
    split at hs'
    next h =>
      cases hs'
      rw [Except.ok.injEq, ← String.toByteArray_inj]
      rfl
    next => cases hs'
  next hs' =>
    split at hs'
    next => cases hs'
    next h =>
      simp only [reduceCtorEq, false_iff]
      rintro rfl
      exact h s.isValidUTF8

theorem ofUtf8_eq_error_iff {bytes : ByteArray} {fault : Utf8Fault} :
    ofUtf8 bytes = .error fault ↔ utf8FaultFrom? 0 bytes.toList = some fault := by
  unfold ofUtf8 fromUTF8?
  by_cases h : bytes.IsValidUTF8
  case pos =>
    have hnone := (utf8FaultFrom?_eq_none_iff 0).mpr (isValidUTF8_iff.mp h)
    simp [h, hnone]
  case neg =>
    have hsome := mt (utf8FaultFrom?_eq_none_iff 0).mp (mt isValidUTF8_iff.mpr h)
    obtain ⟨found, hfound⟩ := Option.ne_none_iff_exists'.mp hsome
    simp [h, hfound]

end CodeAppraisal.Text
