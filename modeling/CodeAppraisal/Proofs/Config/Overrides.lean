import CodeAppraisal.Config.Basic
import CodeAppraisal.Proofs.Text.Trim

/-!
This module shows what environment variables do to settings. A variable that should be a port and is
none leaves all settings as they are; else the port and the host become what their variables say,
and nothing else changes.
-/
namespace CodeAppraisal.Config

open Text

section Ports

def Decimal (cs : List Char) (n : Nat) : Prop :=
  ∃ digits : List Nat, digits ≠ [] ∧ (∀ d ∈ digits, d < 10) ∧ cs = digits.map Nat.digitChar ∧
    n = Nat.ofDigits 10 digits.reverse

def SaysPort (value : String) (port : Nat) : Prop :=
  port < 2 ^ 16 ∧ ∃ text, Trimmed value.toList text ∧
    (Decimal text port ∨ ∃ digits, text = '+' :: digits ∧ Decimal digits port)

theorem digitChar_toNat_sub {c : Char} (h : c.isDigit = true) :
    c.toNat - 48 < 10 ∧ Nat.digitChar (c.toNat - 48) = c := by
  have hrange : 48 ≤ c.toNat ∧ c.toNat ≤ 57 := Char.isDigit_iff_toNat.mp h
  have hlt : c.toNat - 48 < 10 := by omega
  refine ⟨hlt, Char.toNat_inj.mp ?_⟩
  rw [Nat.toNat_digitChar_of_lt_ten hlt]
  omega

theorem all_isDigit_iff (cs : List Char) : cs.all Char.isDigit = true ↔
    ∃ digits : List Nat, (∀ d ∈ digits, d < 10) ∧ cs = digits.map Nat.digitChar := by
  rw [List.all_eq_true]
  constructor
  . intro h
    refine ⟨cs.map fun c => c.toNat - 48, ?_, ?_⟩
    . rw [List.forall_mem_map]
      exact fun c hc => (digitChar_toNat_sub (h c hc)).1
    . have hback : cs.map (fun c => Nat.digitChar (c.toNat - 48)) = cs := by
        simpa using List.map_congr_left (g := id) fun c hc => (digitChar_toNat_sub (h c hc)).2
      rw [List.map_map]
      exact hback.symm
  . rintro ⟨digits, hdigits, rfl⟩
    rw [List.forall_mem_map]
    intro d hd
    rw [Nat.isDigit_digitChar, decide_eq_true (hdigits d hd)]

theorem foldl_digits {digits : List Nat} (h : ∀ d ∈ digits, d < 10) (start : Nat) :
    (digits.map Nat.digitChar).foldl (fun n c => 10 * n + (c.toNat - 48)) start =
      10 ^ digits.length * start + Nat.ofDigits 10 digits.reverse := by
  induction digits generalizing start with
  | nil => simp
  | cons d digits ih =>
    have hd : (Nat.digitChar d).toNat - 48 = d := by
      rw [Nat.toNat_digitChar_of_lt_ten (h d List.mem_cons_self)]
      omega
    rw [List.map_cons, List.foldl_cons, hd, ih (fun d' hd' => h d' (List.mem_cons_of_mem _ hd')),
      Nat.ofDigits_reverse_cons, List.length_cons]
    ring

theorem digitsValue?_eq_some_iff {cs : List Char} {n : Nat} :
    digitsValue? cs = some n ↔ Decimal cs n := by
  unfold digitsValue? Decimal
  constructor
  . intro h
    split at h
    . next hcs =>
      injection h with h
      rw [Bool.and_eq_true, Bool.not_eq_true', List.isEmpty_eq_false_iff, all_isDigit_iff] at hcs
      obtain ⟨hne, digits, hdigits, rfl⟩ := hcs
      rw [foldl_digits hdigits] at h
      exact ⟨digits, by simpa using hne, hdigits, rfl, by rw [← h, Nat.mul_zero, Nat.zero_add]⟩
    . cases h
  . rintro ⟨digits, hne, hdigits, rfl, rfl⟩
    have hall := (all_isDigit_iff _).mpr ⟨digits, hdigits, rfl⟩
    rw [hall, foldl_digits hdigits]
    simp [hne]

theorem Decimal.head_ne_plus {cs : List Char} {n : Nat} (h : Decimal cs n) :
    cs.head? ≠ some '+' := by
  obtain ⟨digits, hne, hdigits, rfl, rfl⟩ := h
  cases digits with
  | nil => exact absurd rfl hne
  | cons d digits =>
    intro hplus
    have hdigit : (Nat.digitChar d).isDigit = true := by
      rw [Nat.isDigit_digitChar, decide_eq_true (hdigits d List.mem_cons_self)]
    rw [List.map_cons, List.head?_cons, Option.some.injEq] at hplus
    rw [hplus] at hdigit
    exact absurd hdigit (by decide)

theorem portOf?_eq_some_iff {text : List Char} {port : Nat} :
    portOf? text = some port ↔ port < 2 ^ 16 ∧
      (Decimal text port ∨ ∃ digits, text = '+' :: digits ∧ Decimal digits port) := by
  have hdigits : portOf? text = some port ↔ port < 2 ^ 16 ∧
      Decimal (if text.head? = some '+' then text.tail else text) port := by
    rw [← digitsValue?_eq_some_iff, portOf?, Option.bind_eq_bind, Option.bind_eq_some_iff]
    constructor
    . rintro ⟨n, hn, hport⟩
      split at hport
      . next hlt =>
        injection hport with hport
        exact hport ▸ ⟨hlt, hn⟩
      . cases hport
    . rintro ⟨hlt, hn⟩
      exact ⟨port, hn, if_pos hlt⟩
  rw [hdigits]
  constructor
  . rintro ⟨hlt, hn⟩
    refine ⟨hlt, ?_⟩
    split at hn
    . next hplus =>
      obtain ⟨digits, rfl⟩ := List.head?_eq_some_iff.mp hplus
      exact .inr ⟨digits, rfl, hn⟩
    . exact .inl hn
  . rintro ⟨hlt, hn | ⟨digits, rfl, hn⟩⟩
    . rw [if_neg hn.head_ne_plus]
      exact ⟨hlt, hn⟩
    . exact ⟨hlt, hn⟩

example : portOf? "+0065535".toList = some 65535 ∧ portOf? "65536".toList = none ∧
    portOf? "-0".toList = none ∧ portOf? "".toList = none := by
  decide

theorem saysPort_iff {value : String} {port : Nat} :
    SaysPort value port ↔ portOf? (trim value.toList) = some port := by
  rw [portOf?_eq_some_iff, SaysPort]
  simp only [trimmed_iff, exists_eq_left']

end Ports

section Environment

variable {lookup : String → Option String}

def wantedPort (lookup : String → Option String) : Except ConfigError (Option Nat) :=
  match lookup "PORT" with
  | none => .ok none
  | some value =>
    match portOf? (trim value.toList) with
    | some port => .ok (some port)
    | none => .error (.invalidVariable "PORT" value)

def wantedHost (lookup : String → Option String) : Option String :=
  (lookup "PYREVIEW_HOST").bind fun value =>
    if (trim value.toList).isEmpty then none else some (String.ofList (trim value.toList))

def withAddress (c : Config) (host : Option String) (port : Option Nat) : Config :=
  { c with server := { c.server with
      host := host.getD c.server.host
      port := port.getD c.server.port } }

theorem overridePort_run (lookup : String → Option String) (c : Config) :
    (overridePort lookup).run.run c =
      match wantedPort lookup with
      | .ok port => (.ok (), c.withAddress none port)
      | .error e => (.error e, c) := by
  unfold overridePort wantedPort
  cases lookup "PORT" with
  | none => rfl
  | some value =>
    dsimp only
    cases portOf? (trim value.toList) with
    | none => rfl
    | some port => rfl

theorem overrideHost_run (lookup : String → Option String) (c : Config) :
    (overrideHost lookup).run.run c = (.ok (), c.withAddress (wantedHost lookup) none) := by
  unfold overrideHost wantedHost
  cases lookup "PYREVIEW_HOST" with
  | none => rfl
  | some value =>
    dsimp only [Option.bind_some]
    cases (trim value.toList).isEmpty with
    | true => rfl
    | false => rfl

theorem applyOverrides_run (lookup : String → Option String) (c : Config) :
    (applyOverrides lookup).run.run c =
      match wantedPort lookup with
      | .ok port => (.ok (), c.withAddress (wantedHost lookup) port)
      | .error e => (.error e, c) := by
  unfold applyOverrides
  rw [ExceptT.run_bind, StateT.run_bind, overridePort_run]
  cases wantedPort lookup with
  | error e => rfl
  | ok port => exact overrideHost_run lookup _

theorem withAddress_again (c : Config) (host : Option String) (port : Option Nat) :
    (c.withAddress host port).withAddress host port = c.withAddress host port := by
  cases host <;> cases port <;> rfl

theorem wantedPort_of_saysPort {value : String} {port : Nat} (h : lookup "PORT" = some value)
    (hport : SaysPort value port) : wantedPort lookup = .ok (some port) := by
  rw [saysPort_iff] at hport
  simp only [wantedPort, h, hport]

theorem wantedPort_eq_error_iff {e : ConfigError} : wantedPort lookup = .error e ↔
    ∃ value, lookup "PORT" = some value ∧ (∀ port, ¬ SaysPort value port) ∧
      e = .invalidVariable "PORT" value := by
  cases h : lookup "PORT" with
  | none => simp [wantedPort, h]
  | some value =>
    simp only [saysPort_iff, ← Option.eq_none_iff_forall_ne_some]
    cases hport : portOf? (trim value.toList) <;> simp [wantedPort, h, hport, eq_comm]

theorem wantedHost_of_trimmed {value : String} {text : List Char}
    (h : lookup "PYREVIEW_HOST" = some value) (htext : Trimmed value.toList text) :
    wantedHost lookup = if text = [] then none else some (String.ofList text) := by
  simp only [wantedHost, h, Option.bind_some, htext.trim_eq, List.isEmpty_iff]

structure FollowsEnvironment (lookup : String → Option String) (c : Config)
    (answer : Except ConfigError Unit) (c' : Config) : Prop where
  refused_iff : (∃ e, answer = .error e) ↔
    ∃ value, lookup "PORT" = some value ∧ ∀ port, ¬ SaysPort value port
  refused : ∀ e, answer = .error e →
    c' = c ∧ ∃ value, lookup "PORT" = some value ∧ e = .invalidVariable "PORT" value
  frame : c' = { c with server := { c.server with
    host := c'.server.host
    port := c'.server.port } }
  port_unset : lookup "PORT" = none → c'.server.port = c.server.port
  port : ∀ value port, lookup "PORT" = some value → SaysPort value port → c'.server.port = port
  host_unset : lookup "PYREVIEW_HOST" = none → c'.server.host = c.server.host
  host : ∀ value text, lookup "PYREVIEW_HOST" = some value → Trimmed value.toList text →
    answer = .ok () →
      c'.server.host = if text = [] then c.server.host else String.ofList text
  again : answer = .ok () → (applyOverrides lookup).run.run c' = (.ok (), c')

theorem followsEnvironment_of_error {e : ConfigError} (c : Config)
    (h : wantedPort lookup = .error e) : FollowsEnvironment lookup c (.error e) c := by
  obtain ⟨value, hvalue, hnone, rfl⟩ := wantedPort_eq_error_iff.mp h
  constructor
  case refused_iff => exact ⟨fun _ => ⟨value, hvalue, hnone⟩, fun _ => ⟨_, rfl⟩⟩
  case refused =>
    rintro e' ⟨⟩
    exact ⟨rfl, value, hvalue, rfl⟩
  case frame => rfl
  case port_unset => exact fun _ => rfl
  case port =>
    intro value' port hvalue' hport
    rw [wantedPort_of_saysPort hvalue' hport] at h
    cases h
  case host_unset => exact fun _ => rfl
  case host =>
    intro value' text hvalue' htext hok
    cases hok
  case again =>
    intro hok
    cases hok

theorem followsEnvironment_of_ok {port : Option Nat} (c : Config)
    (h : wantedPort lookup = .ok port) :
    FollowsEnvironment lookup c (.ok ()) (c.withAddress (wantedHost lookup) port) := by
  constructor
  case refused_iff =>
    constructor
    . rintro ⟨e, he⟩
      cases he
    . rintro ⟨value, hvalue, hnone⟩
      rw [wantedPort_eq_error_iff.mpr ⟨value, hvalue, hnone, rfl⟩] at h
      cases h
  case refused =>
    intro e he
    cases he
  case frame => rfl
  case port_unset =>
    intro hunset
    simp only [wantedPort, hunset] at h
    injection h with h
    rw [← h]
    rfl
  case port =>
    intro value port' hvalue hport
    rw [wantedPort_of_saysPort hvalue hport] at h
    injection h with h
    rw [← h]
    rfl
  case host_unset =>
    intro hunset
    simp only [withAddress, wantedHost, hunset, Option.bind_none, Option.getD_none]
  case host =>
    intro value text hvalue htext _
    simp only [withAddress, wantedHost_of_trimmed hvalue htext]
    split
    . rfl
    . rfl
  case again =>
    intro _
    rw [applyOverrides_run, h]
    dsimp only
    rw [withAddress_again]

theorem applyOverrides_followsEnvironment (lookup : String → Option String) (c : Config) :
    FollowsEnvironment lookup c ((applyOverrides lookup).run.run c).1
      ((applyOverrides lookup).run.run c).2 := by
  rw [applyOverrides_run]
  cases hport : wantedPort lookup with
  | error e => exact followsEnvironment_of_error c hport
  | ok port => exact followsEnvironment_of_ok c hport

end Environment

end CodeAppraisal.Config
