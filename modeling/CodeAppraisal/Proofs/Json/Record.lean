import CodeAppraisal.Json.Decode
import CodeAppraisal.Proofs.Traversal
import Mathlib

/-!
This module says which JSON values are read as a value of a type: for records, which objects have
their fields.
-/
namespace CodeAppraisal.Json

variable {α β γ : Type}

theorem bind_eq_ok_iff {ε : Type} {x : Except ε β} {f : β → Except ε γ} {c : γ} :
    x >>= f = .ok c ↔ ∃ b, x = .ok b ∧ f b = .ok c := by
  cases x with
  | error e => simp [bind, Except.bind]
  | ok b => simp [bind, Except.bind]

abbrev RoundTrips (encode : β → Json α) (decode : Decoder α β) (Writable : β → Prop) : Prop :=
  ∀ b c, decode (encode b) = .ok c ↔ Writable b ∧ c = b

section Scalar

theorem decodeNat_ofNat_iff {type : String} {bound n k : Nat} :
    (decodeNat type bound (ofNat n) : Except (DecodeError α) Nat) = .ok k ↔ n < bound ∧ k = n := by
  have hnat : 0 ≤ (n : Int) := Int.natCast_nonneg n
  by_cases h : n < bound
  . simp [decodeNat, ofNat, hnat, h, eq_comm]
  . simp [decodeNat, ofNat, hnat, h]

@[simp]
theorem decodeSize_ofNat_iff {n k : Nat} :
    (decodeSize (ofNat n) : Except (DecodeError α) Nat) = .ok k ↔ n < 2 ^ 64 ∧ k = n :=
  decodeNat_ofNat_iff

@[simp]
theorem decodeWord_ofNat_iff {n k : Nat} :
    (decodeWord (ofNat n) : Except (DecodeError α) Nat) = .ok k ↔ n < 2 ^ 32 ∧ k = n :=
  decodeNat_ofNat_iff

@[simp]
theorem decodeReal_ofReal_iff [Quantity α] {x y : α} :
    decodeReal (ofReal x) = .ok y ↔ Quantity.isFinite x = true ∧ y = x := by
  unfold ofReal
  split
  . next h => simp [decodeReal, h, eq_comm]
  . next h => simp [decodeReal, h]

@[simp]
theorem decodeBool_bool_iff {b c : Bool} :
    (decodeBool (.bool b) : Except (DecodeError α) Bool) = .ok c ↔ c = b := by
  simp [decodeBool, eq_comm]

@[simp]
theorem decodeString_string_iff {t u : String} :
    (decodeString (.string t) : Except (DecodeError α) String) = .ok u ↔ u = t := by
  simp [decodeString, eq_comm]

@[simp]
theorem decodeOption_string_iff {t : String} {o : Option String} :
    (decodeOption decodeString (.string t) : Except (DecodeError α) (Option String)) = .ok o ↔
      o = some t := by
  simp [decodeOption, decodeString, Except.map, eq_comm]

@[simp]
theorem decodeStrings_ofStrings_iff {ss ts : List String} :
    (decodeList decodeString (ofStrings ss) : Except (DecodeError α) (List String)) = .ok ts ↔
      ts = ss := by
  have hread : (decodeString : Decoder α String) ∘ .string = pure := rfl
  have hinj : Function.Injective (pure : String → Except (DecodeError α) String) := by
    intro t u h
    exact Except.ok.inj h
  change (ss.map .string).mapM decodeString = pure ts ↔ _
  rw [mapM_eq_pure_iff, List.map_map, hread, (List.map_injective_iff.mpr hinj).eq_iff, eq_comm]

theorem decodeVariant_string_iff {variants : List (String × β)} {name : String} {b c : β}
    (h : variants.lookup name = some b) :
    (decodeVariant variants (.string name) : Except (DecodeError α) β) = .ok c ↔ c = b := by
  simp [decodeVariant, decodeVariant.ofName, h, eq_comm]

end Scalar

namespace FieldShape

def Takes (f : FieldShape α) (v : Json α) : Prop := f.fault? v = none

section Takes

variable {name : String} {decode : Decoder α β} {v : Json α}

theorem faultOf_eq_none_iff : faultOf decode v = none ↔ ∃ b, decode v = .ok b := by
  unfold faultOf
  cases decode v <;> simp

@[simp]
theorem takes_mandatory : (mandatory name decode).Takes v ↔ ∃ b, decode v = .ok b :=
  faultOf_eq_none_iff

@[simp]
theorem takes_optional : (optional name decode).Takes v ↔ ∃ b, decode v = .ok b :=
  faultOf_eq_none_iff

@[simp]
theorem name_mandatory : (mandatory name decode).name = name :=
  rfl

@[simp]
theorem name_optional : (optional name decode).name = name :=
  rfl

@[simp]
theorem required_mandatory : (mandatory name decode).required = true :=
  rfl

@[simp]
theorem required_optional : (optional name decode).required = false :=
  rfl

end Takes

end FieldShape

section Field

variable {fields : List (String × Json α)} {name other : String} {decode : Decoder α β} {v : Json α}
  {missing : β}

@[simp]
theorem get_cons : Json.get ((other, v) :: fields) name decode =
    if name = other then decode v else Json.get fields name decode := by
  unfold Json.get field?
  rw [List.lookup_cons]
  by_cases h : name = other
  . simp [h]
  . simp [beq_eq_false_iff_ne.mpr h, h]

@[simp]
theorem getD_cons : Json.getD ((other, v) :: fields) name decode missing =
    if name = other then decode v else Json.getD fields name decode missing := by
  unfold Json.getD field?
  rw [List.lookup_cons]
  by_cases h : name = other
  . simp [h]
  . simp [beq_eq_false_iff_ne.mpr h, h]

@[simp]
theorem getD_nil : Json.getD ([] : List (String × Json α)) name decode missing = .ok missing :=
  rfl

theorem field?_isSome_iff : (field? fields name).isSome ↔ name ∈ fields.map (·.1) := by
  unfold field?
  rw [← Option.ne_none_iff_isSome, ne_eq, List.lookup_eq_none_iff, List.mem_map]
  push Not
  constructor
  . rintro ⟨p, hp, hname⟩
    exact ⟨p, hp, (by simpa using hname : name = p.1).symm⟩
  . rintro ⟨p, hp, rfl⟩
    exact ⟨p, hp, by simp⟩

end Field

namespace Shape

variable {s : Shape α} {fields r : List (String × Json α)}

theorem find?_name_iff (hnames : (s.fields.map (·.name)).Nodup) {f : FieldShape α} {name : String} :
    s.fields.find? (·.name == name) = some f ↔ f ∈ s.fields ∧ f.name = name := by
  constructor
  . intro h
    exact ⟨List.mem_of_find?_eq_some h, by simpa using List.find?_some h⟩
  . rintro ⟨hf, rfl⟩
    have hsome : (s.fields.find? (·.name == f.name)).isSome := by
      rw [List.find?_isSome]
      exact ⟨f, hf, by simp⟩
    obtain ⟨g, hg⟩ := Option.isSome_iff_exists.mp hsome
    have hname : g.name = f.name := by simpa using List.find?_some hg
    rw [hg, List.inj_on_of_nodup_map hnames (List.mem_of_find?_eq_some hg) hf hname]

theorem objectFault?_eq_none_iff (hnames : (s.fields.map (·.name)).Nodup) :
    s.objectFault? fields = none ↔
      (∀ f ∈ s.fields, f.required → f.name ∈ fields.map (·.1)) ∧
        ∀ p ∈ fields, ∀ f ∈ s.fields, f.name = p.1 → f.Takes p.2 := by
  have hfault : s.objectFault? fields =
      ((fields.findSome? fun p => (s.fields.find? (·.name == p.1)).bind (·.fault? p.2)) <|>
        (s.fields.find? fun f => f.required && (field? fields f.name).isNone).map
          fun f => .missingField f.name) :=
    rfl
  have hmissing : (s.fields.find? fun f => f.required && (field? fields f.name).isNone) = none ↔
      ∀ f ∈ s.fields, f.required → f.name ∈ fields.map (·.1) := by
    simp only [List.find?_eq_none, Bool.and_eq_true, not_and, ← field?_isSome_iff,
      Option.isNone_iff_eq_none, ← Option.isSome_iff_ne_none]
  have hwrong : (fields.findSome? fun p =>
      (s.fields.find? (·.name == p.1)).bind (·.fault? p.2)) = none ↔
      ∀ p ∈ fields, ∀ f ∈ s.fields, f.name = p.1 → f.Takes p.2 := by
    simp only [List.findSome?_eq_none_iff, Option.bind_eq_none_iff, find?_name_iff hnames, and_imp]
    rfl
  rw [← hmissing, ← hwrong, hfault]
  cases fields.findSome? _ <;> cases s.fields.find? _ <;> simp

theorem ofObject_eq_ok_iff (hnames : (s.fields.map (·.name)).Nodup) :
    s.ofObject fields = .ok r ↔ r = fields ∧
      (∀ f ∈ s.fields, f.required → f.name ∈ fields.map (·.1)) ∧
        ∀ p ∈ fields, ∀ f ∈ s.fields, f.name = p.1 → f.Takes p.2 := by
  rw [← objectFault?_eq_none_iff hnames]
  unfold ofObject
  cases s.objectFault? fields <;> simp [eq_comm]

theorem read_bind_ne_ok (hnames : (s.fields.map (·.name)).Nodup)
    (hmissing : ∃ f ∈ s.fields, f.required ∧ f.name ∉ fields.map (·.1))
    (build : List (String × Json α) → Except (DecodeError α) β) (b : β) :
    s.read (.object fields) >>= build ≠ .ok b := by
  obtain ⟨f, hf, hrequired, hname⟩ := hmissing
  rw [ne_eq, bind_eq_ok_iff]
  simp only [read, ofObject_eq_ok_iff hnames]
  rintro ⟨r, ⟨-, hpresent, -⟩, -⟩
  exact hname (hpresent f hf hrequired)

theorem roundTrips (hnames : (s.fields.map (·.name)).Nodup) {fieldsOf : β → List (String × Json α)}
    {build : List (String × Json α) → Except (DecodeError α) β} {Writable : β → Prop}
    (hrequired : ∀ b, ∀ f ∈ s.fields, f.required → f.name ∈ (fieldsOf b).map (·.1))
    (htakes : ∀ b, (∀ p ∈ fieldsOf b, ∀ f ∈ s.fields, f.name = p.1 → f.Takes p.2) ↔ Writable b)
    (hbuild : ∀ b, Writable b → build (fieldsOf b) = .ok b) :
    RoundTrips (fun b => .object (fieldsOf b)) (fun j => s.read j >>= build) Writable := by
  intro b c
  rw [bind_eq_ok_iff]
  simp only [read, ofObject_eq_ok_iff hnames, htakes]
  constructor
  . rintro ⟨r, ⟨rfl, -, hb⟩, hc⟩
    rw [hbuild b hb] at hc
    exact ⟨hb, (Except.ok.inj hc).symm⟩
  . rintro ⟨hb, rfl⟩
    exact ⟨_, ⟨rfl, hrequired c, hb⟩, hbuild c hb⟩

end Shape

end CodeAppraisal.Json
