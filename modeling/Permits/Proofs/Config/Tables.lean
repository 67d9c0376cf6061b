import Permits.Proofs.Config.RoundTrip
import Permits.Proofs.Data.Increasing

namespace Permits

namespace Keyed

variable {α β ε : Type} {key : String} {value : β} {m : Keyed β}

theorem find?_cons (key : String) (value : β) (m : Keyed β) :
    find? ((key, value) :: m) = Function.update m.find? key (some value) := by
  funext other
  by_cases h : key = other
  · subst h
    rw [find?, if_pos rfl, Function.update_self]
  · rw [find?, if_neg h, Function.update_of_ne (Ne.symm h)]

/-- Entries of different names are taken one after the other. If a step does what settling with one
entry more would do, then the whole run settles with what is found, whatever the order. -/
theorem foldlM_eq_settle {take : α → String → β → Except ε α}
    {settle : α → (String → Option β) → Except ε α} {Fits : String → β → Prop}
    (hend : ∀ a, settle a (fun _ => none) = .ok a)
    (hstep : ∀ a key value look, look key = none → Fits key value →
      (take a key value >>= fun a' => settle a' look) =
        settle a (Function.update look key (some value)))
    (hnodup : m.keys.Nodup) (hfits : ∀ e ∈ m, Fits e.1 e.2) (a : α) :
    m.foldlM (fun a e => take a e.1 e.2) a = settle a m.find? := by
  induction m generalizing a with
  | nil => exact (hend a).symm
  | cons e m ih =>
    -- Nothing more is found under the name of the first entry, which is what a step asks for.
    obtain ⟨hnew, hnodup⟩ := List.nodup_cons.1 hnodup
    have hrest := ih hnodup fun e' he' => hfits e' (List.mem_cons_of_mem e he')
    have hfresh : find? m e.1 = none := find?_eq_none_of_notMem hnew
    simp only [List.foldlM_cons, hrest]
    rw [hstep a e.1 e.2 _ hfresh (hfits e List.mem_cons_self), ← find?_cons]

end Keyed

namespace Setting

def textOr (usual : String) : Option Setting → String
  | some (text s) => s
  | _ => usual

def portOr (usual : UInt16) : Option Setting → UInt16
  | some (whole n) => .ofNat n
  | _ => usual

def flagOr (usual : Bool) : Option Setting → Bool
  | some (flag b) => b
  | _ => usual

def policyOr (usual : FailurePolicy) : Option Setting → FailurePolicy
  | some (text s) => (FailurePolicy.ofWord? s).getD usual
  | _ => usual

/-- Only the text of a timeout may make no sense. -/
def timeoutOr (usual : Duration) : Option Setting → Except ConfigError Duration
  | some s => Config.timeoutSetting s.datum
  | none => .ok usual

@[simp] theorem textOr_map (usual : String) (o : Option String) :
    textOr usual (o.map text) = o.getD usual := by
  cases o <;> rfl

@[simp] theorem portOr_map (usual : UInt16) (o : Option UInt16) :
    portOr usual (o.map fun p => whole p.toNat) = o.getD usual := by
  cases o with
  | none => rfl
  | some p => exact UInt16.ofNat_toNat

@[simp] theorem flagOr_map (usual : Bool) (o : Option Bool) :
    flagOr usual (o.map flag) = o.getD usual := by
  cases o <;> rfl

@[simp] theorem policyOr_none (usual : FailurePolicy) : policyOr usual none = usual := rfl

@[simp] theorem policyOr_word (usual p : FailurePolicy) :
    policyOr usual (some (text p.word)) = p := by
  cases p <;> rfl

@[simp] theorem policyOr_map (usual : FailurePolicy) (o : Option FailurePolicy) :
    policyOr usual (o.map fun p => text p.word) = o.getD usual := by
  cases o with
  | none => rfl
  | some p => exact policyOr_word usual p

end Setting

open Setting Config

section Settling

variable {f : Datum.Format}

namespace StoreSettings

/-- The form that a setting must have; a name of no meaning may have any. -/
def Fits (name : String) (s : Setting) : Prop :=
  match name with
  | "protocol" | "host" | "username" | "password" | "request_timeout" => ∃ t, s = .text t
  | "port" => ∃ p : UInt16, s = .whole p.toNat
  | _ => True

def settle (s : StoreSettings) (look : String → Option Setting) :
    Except ConfigError StoreSettings := do
  let timeout ← timeoutOr s.timeout (look "request_timeout")
  return {
    protocol := textOr s.protocol (look "protocol")
    host := textOr s.host (look "host")
    port := portOr s.port (look "port")
    username := textOr s.username (look "username")
    password := textOr s.password (look "password")
    timeout }

theorem settle_take (s : StoreSettings) (name : String) (v : Setting)
    (look : String → Option Setting) (hnew : look name = none) (hfits : Fits name v) :
    (s.take name v.datum >>= fun s' => s'.settle look) =
      s.settle (Function.update look name (some v)) := by
  unfold take
  split
  -- The port and the timeout have forms of their own, and a name of no meaning leaves all as it is.
  case h_3 =>
    obtain ⟨p, rfl⟩ : ∃ p : UInt16, v = .whole p.toNat := hfits
    simp [settle, portSetting_datum, ok_bind, hnew, portOr]
  case h_6 =>
    simp [settle, timeoutOr, hnew]
    rfl
  case h_7 hprotocol hhost hport husername hpassword htimeout =>
    simp [settle, ok_bind, Function.update_of_ne, Ne.symm hprotocol, Ne.symm hhost, Ne.symm hport,
      Ne.symm husername, Ne.symm hpassword, Ne.symm htimeout]
  all_goals
    obtain ⟨t, rfl⟩ : ∃ t, v = .text t := hfits
    simp [settle, textSetting_datum, ok_bind, hnew, textOr]

/-- The settings of a store are read alike in whatever order they stand. -/
theorem ofDatum_membersOf {t : SettingsTable} (hnodup : (Keyed.keys t).Nodup)
    (hfits : ∀ e ∈ t, Fits e.1 e.2) :
    ofDatum f (.table (Toml.membersOf t)) = settle {} (Keyed.find? t) := by
  rw [ofDatum, Toml.membersOf, readSettings_table]
  exact Keyed.foldlM_eq_settle (fun _ => rfl) settle_take hnodup hfits {}

end StoreSettings

namespace PermissionSettings

def Fits (name : String) (s : Setting) : Prop :=
  match name with
  | "public_user" => ∃ t, s = .text t
  | "provision_failure_policy" | "update_failure_policy" =>
    ∃ p : FailurePolicy, s = .text p.word
  | _ => True

def settle (s : PermissionSettings) (look : String → Option Setting) : PermissionSettings where
  publicUser := textOr s.publicUser (look "public_user")
  onProvision := policyOr s.onProvision (look "provision_failure_policy")
  onUpdate := policyOr s.onUpdate (look "update_failure_policy")

theorem settle_take (s : PermissionSettings) (name : String) (v : Setting)
    (look : String → Option Setting) (hnew : look name = none) (hfits : Fits name v) :
    (s.take f name v.datum >>= fun s' => .ok (s'.settle look)) =
      .ok (s.settle (Function.update look name (some v))) := by
  unfold take
  split
  case h_1 =>
    obtain ⟨t, rfl⟩ : ∃ t, v = .text t := hfits
    simp [settle, textSetting_datum, ok_bind, hnew, textOr]
  case h_4 hpublic hprovision hupdate =>
    simp [settle, ok_bind, Function.update_of_ne, Ne.symm hpublic, Ne.symm hprovision,
      Ne.symm hupdate]
  all_goals
    obtain ⟨p, rfl⟩ : ∃ p : FailurePolicy, v = .text p.word := hfits
    simp [settle, policySetting_datum, ok_bind, hnew]

theorem ofDatum_membersOf {t : SettingsTable} (hnodup : (Keyed.keys t).Nodup)
    (hfits : ∀ e ∈ t, Fits e.1 e.2) :
    ofDatum f (.table (Toml.membersOf t)) = .ok (settle {} (Keyed.find? t)) := by
  rw [ofDatum, Toml.membersOf, readSettings_table]
  exact Keyed.foldlM_eq_settle (fun _ => rfl) settle_take hnodup hfits {}

end PermissionSettings

namespace LogSettings

def Fits (name : String) (s : Setting) : Prop :=
  match name with
  | "level" => ∃ t, s = .text t
  | "json_format" | "with_target" => ∃ b, s = .flag b
  | _ => True

def settle (s : LogSettings) (look : String → Option Setting) : LogSettings where
  level := textOr s.level (look "level")
  json := flagOr s.json (look "json_format")
  withTarget := flagOr s.withTarget (look "with_target")

theorem settle_take (s : LogSettings) (name : String) (v : Setting)
    (look : String → Option Setting) (hnew : look name = none) (hfits : Fits name v) :
    (s.take name v.datum >>= fun s' => .ok (s'.settle look)) =
      .ok (s.settle (Function.update look name (some v))) := by
  unfold take
  split
  case h_1 =>
    obtain ⟨t, rfl⟩ : ∃ t, v = .text t := hfits
    simp [settle, textSetting_datum, ok_bind, hnew, textOr]
  case h_4 hlevel hjson htarget =>
    simp [settle, ok_bind, Function.update_of_ne, Ne.symm hlevel, Ne.symm hjson, Ne.symm htarget]
  all_goals
    obtain ⟨b, rfl⟩ : ∃ b, v = .flag b := hfits
    simp [settle, flagSetting_datum, ok_bind, hnew, flagOr]

theorem ofDatum_membersOf {t : SettingsTable} (hnodup : (Keyed.keys t).Nodup)
    (hfits : ∀ e ∈ t, Fits e.1 e.2) :
    ofDatum f (.table (Toml.membersOf t)) = .ok (settle {} (Keyed.find? t)) := by
  rw [ofDatum, Toml.membersOf, readSettings_table]
  exact Keyed.foldlM_eq_settle (fun _ => rfl) settle_take hnodup hfits {}

end LogSettings

namespace Config

/-- A section has each name once, and its settings have their form. -/
def Fits (name : String) (t : SettingsTable) : Prop :=
  (Keyed.keys t).Nodup ∧ ∀ e ∈ t,
    match name with
    | "store" => StoreSettings.Fits e.1 e.2
    | "permissions" => PermissionSettings.Fits e.1 e.2
    | "logging" => LogSettings.Fits e.1 e.2
    | _ => True

def settle (c : Config) (look : String → Option SettingsTable) : Except ConfigError Config := do
  let store ← match look "store" with
    | some t => StoreSettings.settle {} (Keyed.find? t)
    | none => .ok c.store
  return {
    store
    permissions := match look "permissions" with
      | some t => PermissionSettings.settle {} (Keyed.find? t)
      | none => c.permissions
    logging := match look "logging" with
      | some t => LogSettings.settle {} (Keyed.find? t)
      | none => c.logging }

theorem settle_take (c : Config) (name : String) (t : SettingsTable)
    (look : String → Option SettingsTable) (hnew : look name = none) (hfits : Fits name t) :
    (c.take f name (.table (Toml.membersOf t)) >>= fun c' => c'.settle look) =
      c.settle (Function.update look name (some t)) := by
  obtain ⟨hnodup, hfits⟩ := hfits
  unfold take
  split
  case h_1 =>
    rw [StoreSettings.ofDatum_membersOf hnodup hfits]
    simp [settle, hnew]
    rfl
  case h_2 =>
    rw [PermissionSettings.ofDatum_membersOf hnodup hfits]
    simp [settle, hnew, ok_bind]
  case h_3 =>
    rw [LogSettings.ofDatum_membersOf hnodup hfits]
    simp [settle, hnew, ok_bind]
  case h_4 hstore hpermissions hlogging =>
    simp [settle, ok_bind, Function.update_of_ne, Ne.symm hstore, Ne.symm hpermissions,
      Ne.symm hlogging]

def settingIn (sections : List (String × SettingsTable)) (part name : String) : Option Setting :=
  (Keyed.find? sections part).bind fun t => Keyed.find? t name

/-- Over the usual values a section that is left out is one in which nothing is found. -/
theorem settle_usual (sections : List (String × SettingsTable)) :
    settle {} (Keyed.find? sections) =
      StoreSettings.settle {} (settingIn sections "store") >>= fun store =>
        .ok {
          store
          permissions := PermissionSettings.settle {} (settingIn sections "permissions")
          logging := LogSettings.settle {} (settingIn sections "logging") } := by
  unfold settle settingIn
  cases Keyed.find? sections "store" <;> cases Keyed.find? sections "permissions" <;>
    cases Keyed.find? sections "logging" <;> rfl

/-- The sections of a file are read alike in whatever order they stand. -/
theorem ofDatum_tableOf_eq_settle {sections : List (String × SettingsTable)}
    (hnodup : (Keyed.keys sections).Nodup) (hfits : ∀ e ∈ sections, Fits e.1 e.2) :
    ofDatum f (Toml.tableOf sections) = settle {} (Keyed.find? sections) := by
  rw [ofDatum, Toml.tableOf, readSettings_table _ _ fun t => .table (Toml.membersOf t)]
  exact Keyed.foldlM_eq_settle (fun _ => rfl) settle_take hnodup hfits {}

end Config

end Settling

end Permits
