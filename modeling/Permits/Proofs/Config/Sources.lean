import Permits.Config.Environment
import Permits.Proofs.Config.Tables

namespace Permits

namespace Environment

/-- Whole numbers that fit are read, digit for digit. -/
theorem portDigits_digits {cs : List Char} (hcs : ∀ c ∈ cs, c.isDigit = true) {n m : Nat}
    (hm : (cs.map fun c => c.toNat - 0x30).foldl (fun n d => 10 * n + d) n = m)
    (hfit : m < 0x10000) : portDigits n cs = .ok m := by
  induction cs generalizing n with
  | nil => exact congrArg Except.ok hm
  | cons c cs ih =>
    rw [List.map_cons, List.foldl_cons] at hm
    have hle := Duration.le_foldl_digits (10 * n + (c.toNat - 0x30))
      (cs.map fun c => c.toNat - 0x30)
    rw [portDigits, Text.digit?_of_isDigit (hcs c List.mem_cons_self)]
    simp only
    rw [if_pos (by omega), ih (fun c' hc' => hcs c' (List.mem_cons_of_mem c hc')) hm]

theorem parsePort_toString (p : UInt16) : parsePort (toString p.toNat) = .ok p := by
  obtain ⟨first, ds, hdigits, hall, hvalue⟩ := Duration.toDigits_eq_cons p.toNat
  have hread : portDigits 0 (first :: ds) = .ok p.toNat := by
    apply portDigits_digits hall _ p.toNat_lt
    simpa using hvalue
  have hplus : first ≠ '+' := by
    rintro rfl
    exact absurd (hall '+' List.mem_cons_self) (by decide)
  have hchars : (toString p.toNat).toList = first :: ds := by
    rw [← hdigits]
    exact Nat.toList_repr
  unfold parsePort
  rw [hchars]
  split
  · next h => cases h
  · next h => exact absurd (List.cons.inj h).1 hplus
  · next h => exact absurd (List.cons.inj h).1 hplus
  · rw [hread]
    exact congrArg Except.ok UInt16.ofNat_toNat

theorem parseFlag_toString (b : Bool) : parseFlag (toString b) = .ok b := by
  cases b <;> rfl

/-- A chosen value replaces the usual one if it is read back as it was spelled. -/
theorem override_map {α : Type} {env : Environment} {name : String} {chosen : Option α}
    {spell : α → String} {parse : String → Except SettingFault α}
    (hparse : ∀ a, parse (spell a) = .ok a) (henv : env name = chosen.map spell) (default : α) :
    env.override name default parse = .ok (chosen.getD default) := by
  unfold override
  rw [henv]
  cases chosen with
  | none => rfl
  | some a =>
    simp only [Option.map_some, hparse]
    rfl

end Environment

theorem FailurePolicy.parse_word (p : FailurePolicy) : parse p.word = .ok p := by
  cases p <;> decide +kernel

def Setting.spelled : Setting → String
  | text s => s
  | whole n => toString n
  | flag b => toString b

/-- One setting: the variable that gives it, its section and name in a file, and what is chosen for
it, if anything. -/
structure SettingRow where
  name : String
  part : String
  key : String
  value : Option Setting

/-- Values for any of the settings that variables can give. -/
structure Choices where
  protocol : Option String := none
  host : Option String := none
  port : Option UInt16 := none
  username : Option String := none
  password : Option String := none
  /-- Any text, which a duration may fail to be. -/
  timeout : Option String := none
  publicUser : Option String := none
  onProvision : Option FailurePolicy := none
  onUpdate : Option FailurePolicy := none
  level : Option String := none
  json : Option Bool := none

namespace Choices

open Setting Config

variable {ch : Choices} {env : Environment} {sections : List (String × SettingsTable)}

def rows (ch : Choices) : List SettingRow :=
  [⟨"DOCGUARD_STORE_PROTOCOL", "store", "protocol", ch.protocol.map .text⟩,
   ⟨"DOCGUARD_STORE_HOST", "store", "host", ch.host.map .text⟩,
   ⟨"DOCGUARD_STORE_PORT", "store", "port", ch.port.map fun p => .whole p.toNat⟩,
   ⟨"DOCGUARD_STORE_USER", "store", "username", ch.username.map .text⟩,
   ⟨"DOCGUARD_STORE_PASS", "store", "password", ch.password.map .text⟩,
   ⟨"DOCGUARD_STORE_REQUEST_TIMEOUT", "store", "request_timeout", ch.timeout.map .text⟩,
   ⟨"DOCGUARD_PUBLIC_USER", "permissions", "public_user", ch.publicUser.map .text⟩,
   ⟨"DOCGUARD_PROVISION_FAILURE_POLICY", "permissions", "provision_failure_policy",
     ch.onProvision.map fun p => .text p.word⟩,
   ⟨"DOCGUARD_UPDATE_FAILURE_POLICY", "permissions", "update_failure_policy",
     ch.onUpdate.map fun p => .text p.word⟩,
   ⟨"DOCGUARD_LOG_LEVEL", "logging", "level", ch.level.map .text⟩,
   ⟨"DOCGUARD_LOG_JSON", "logging", "json_format", ch.json.map .flag⟩]

/-- The variables hold what is chosen, and those of the other settings are not there. -/
def Exported (ch : Choices) (env : Environment) : Prop :=
  ∀ r ∈ ch.rows, env r.name = r.value.map Setting.spelled

/-- The sections hold what is chosen, in any order, and leave the other settings out. Names that
mean nothing to the program do not matter. -/
structure Filed (ch : Choices) (sections : List (String × SettingsTable)) : Prop where
  parts : (Keyed.keys sections).Nodup
  keys : ∀ e ∈ sections, (Keyed.keys e.2).Nodup
  chosen : ∀ r ∈ ch.rows, settingIn sections r.part r.key = r.value
  /-- No variable gives this one. -/
  untargeted : settingIn sections "logging" "with_target" = none

def config (ch : Choices) (timeout : Duration) : Config where
  store :=
    { protocol := ch.protocol.getD "http"
      host := ch.host.getD "localhost"
      port := ch.port.getD usualPort
      username := ch.username.getD "admin"
      password := ch.password.getD ""
      timeout }
  permissions :=
    { publicUser := ch.publicUser.getD "public"
      onProvision := ch.onProvision.getD .bestEffort
      onUpdate := ch.onUpdate.getD .bestEffort }
  logging := { level := ch.level.getD "info", json := ch.json.getD false }

/-- Of well spelled choices only the timeout can be refused before all are judged together. -/
theorem environment_config (h : ch.Exported env) :
    env.config = (env.override "DOCGUARD_STORE_REQUEST_TIMEOUT" usualTimeout fun s =>
      (Duration.parse s).mapError .duration) >>= fun timeout => (ch.config timeout).accept := by
  simp only [Exported, rows, List.forall_mem_cons, Option.map_map] at h
  obtain ⟨hprotocol, hhost, hport, husername, hpassword, -, hpublic, hprovision, hupdate, hlevel,
    hjson, -⟩ := h
  have port : env.override "DOCGUARD_STORE_PORT" usualPort
      (fun s => (Environment.parsePort s).mapError .number) = .ok (ch.port.getD usualPort) :=
    Environment.override_map (fun p => congrArg (Except.mapError SettingFault.number)
      (Environment.parsePort_toString p)) hport _
  have policy {name : String} {chosen : Option FailurePolicy}
      (henv : env name = chosen.map (spelled ∘ fun p => .text p.word)) :
      env.override name .bestEffort (fun s => (FailurePolicy.parse s).mapError .policy) =
        .ok (chosen.getD .bestEffort) :=
    Environment.override_map (fun p => congrArg (Except.mapError SettingFault.policy)
      (FailurePolicy.parse_word p)) henv _
  have json : env.override "DOCGUARD_LOG_JSON" false Environment.parseFlag =
      .ok (ch.json.getD false) :=
    Environment.override_map Environment.parseFlag_toString hjson _
  have text {name : String} {chosen : Option String} (default : String)
      (henv : env name = chosen.map (spelled ∘ Setting.text)) :
      env.text name default = chosen.getD default := by
    rw [Environment.text, henv]
    cases chosen <;> rfl
  unfold Environment.config
  simp only [port, policy hprovision, policy hupdate, json, ok_bind, text _ hprotocol, text _ hhost,
    text _ husername, text _ hpassword, text _ hpublic, text _ hlevel]
  rfl

theorem Filed.fits (h : ch.Filed sections) : ∀ e ∈ sections, Config.Fits e.1 e.2 := by
  rintro ⟨part, t⟩ ht
  refine ⟨h.keys _ ht, ?_⟩
  rintro ⟨key, v⟩ hv
  have hfound : settingIn sections part key = some v := by
    rw [settingIn, Keyed.find?_of_mem h.parts ht, Option.bind_some,
      Keyed.find?_of_mem (h.keys _ ht) hv]
  have hchosen := h.chosen
  simp only [rows, List.forall_mem_cons] at hchosen
  obtain ⟨hprotocol, hhost, hport, husername, hpassword, htimeout, hpublic, hprovision, hupdate,
    hlevel, hjson, -⟩ := hchosen
  have form {α : Type} {chosen : Option α} {write : α → Setting}
      (hrow : settingIn sections part key = chosen.map write) : ∃ a, v = write a := by
    rw [hfound] at hrow
    obtain ⟨a, -, ha⟩ := Option.map_eq_some_iff.1 hrow.symm
    exact ⟨a, ha.symm⟩
  simp only
  split
  · unfold StoreSettings.Fits
    split
    · exact form hprotocol
    · exact form hhost
    · exact form husername
    · exact form hpassword
    · exact form htimeout
    · exact form hport
    · trivial
  · unfold PermissionSettings.Fits
    split
    · exact form hpublic
    · exact form hprovision
    · exact form hupdate
    · trivial
  · unfold LogSettings.Fits
    split
    · exact form hlevel
    · exact form hjson
    · rw [h.untargeted] at hfound
      cases hfound
    · trivial
  · trivial

theorem Filed.ofDatum {f : Datum.Format} (h : ch.Filed sections) :
    Config.ofDatum f (Toml.tableOf sections) =
      timeoutOr usualTimeout (ch.timeout.map .text) >>= fun timeout => .ok (ch.config timeout) := by
  have hchosen := h.chosen
  simp only [rows, List.forall_mem_cons] at hchosen
  obtain ⟨hprotocol, hhost, hport, husername, hpassword, htimeout, hpublic, hprovision, hupdate,
    hlevel, hjson, -⟩ := hchosen
  rw [ofDatum_tableOf_eq_settle h.parts h.fits, settle_usual]
  simp only [StoreSettings.settle, PermissionSettings.settle, LogSettings.settle, hprotocol, hhost,
    hport, husername, hpassword, htimeout, hpublic, hprovision, hupdate, hlevel, hjson,
    h.untargeted, textOr_map, portOr_map, policyOr_map, flagOr_map, bind_assoc]
  rfl

/-- How long a request may take, if that can be told. -/
def Lasts (ch : Choices) (timeout : Duration) : Prop :=
  match ch.timeout with
  | none => timeout = usualTimeout
  | some given => Duration.parse given = .ok timeout

/-- What variables and a file answer to the same choices: the same configuration, or the same fault
of it, or both that the timeout makes no sense, each in its own words. -/
inductive Agreed (ch : Choices) : Except ConfigError Config → Except ConfigError Config → Prop where
  | loaded {timeout : Duration} (hlasts : ch.Lasts timeout)
      (hvalid : (ch.config timeout).normalize.validate = .ok ()) :
      Agreed ch (.ok (ch.config timeout).normalize) (.ok (ch.config timeout).normalize)
  | invalid {timeout : Duration} {cause : ConfigFault} (hlasts : ch.Lasts timeout)
      (hfault : (ch.config timeout).normalize.validate = .error cause) :
      Agreed ch (.error (.invalid cause)) (.error (.invalid cause))
  | unreadable {given : String} {fault : DurationError} (hgiven : ch.timeout = some given)
      (hparse : Duration.parse given = .error fault) (hfault : fault ≠ .carriedOver) :
      Agreed ch (.error (.invalidValue "DOCGUARD_STORE_REQUEST_TIMEOUT" given (.duration fault)))
        (.error .malformed)
  | overflow {given : String} (hgiven : ch.timeout = some given)
      (hparse : Duration.parse given = .error .carriedOver) :
      Agreed ch (.error .timeoutOverflow) (.error .timeoutOverflow)

theorem Lasts.agreed {timeout : Duration} (h : ch.Lasts timeout) :
    ch.Agreed (ch.config timeout).accept (ch.config timeout).accept := by
  rw [accept_eq]
  cases hjudged : (ch.config timeout).normalize.validate with
  | ok => exact .loaded h hjudged
  | error cause => exact .invalid h hjudged

theorem Filed.agreed {f : Datum.Format} (h : ch.Filed sections) (henv : ch.Exported env) :
    ch.Agreed env.config (Config.ofDatum f (Toml.tableOf sections) >>= Config.accept) := by
  have hvariable : env "DOCGUARD_STORE_REQUEST_TIMEOUT" = (ch.timeout.map .text).map spelled :=
    henv ⟨_, "store", "request_timeout", ch.timeout.map .text⟩ (by simp [rows])
  rw [environment_config henv, h.ofDatum, Environment.override, hvariable]
  cases hgiven : ch.timeout with
  | none =>
    have hlasts : ch.Lasts usualTimeout := by
      rw [Lasts, hgiven]
    exact hlasts.agreed
  | some given =>
    simp only [Option.map_some, spelled, timeoutOr, timeoutSetting, textSetting_datum, ok_bind]
    cases hparse : Duration.parse given with
    | ok timeout =>
      have hlasts : ch.Lasts timeout := by
        rw [Lasts, hgiven]
        exact hparse
      exact hlasts.agreed
    | error fault =>
      by_cases hfault : fault = .carriedOver
      · subst hfault
        exact .overflow hgiven hparse
      · have hunreadable := Agreed.unreadable hgiven hparse hfault
        cases fault with
        | carriedOver => exact absurd rfl hfault
        | _ => exact hunreadable

section Written

/-- The settings of a section among those that are chosen. -/
def tableIn (rows : List SettingRow) (part : String) : SettingsTable :=
  rows.filterMap fun r => if r.part = part then r.value.map fun v => (r.key, v) else none

variable {rs : List SettingRow} {part key : String} {v : Setting}

theorem mem_tableIn : (key, v) ∈ tableIn rs part ↔
    ∃ r ∈ rs, r.part = part ∧ r.key = key ∧ r.value = some v := by
  simp only [tableIn, List.mem_filterMap, Option.ite_none_right_eq_some, Option.map_eq_some_iff,
    Prod.mk.injEq]
  constructor
  · rintro ⟨r, hr, hpart, w, hw, hkey, rfl⟩
    exact ⟨r, hr, hpart, hkey, hw⟩
  · rintro ⟨r, hr, hpart, hkey, hv⟩
    exact ⟨r, hr, hpart, v, hv, hkey, rfl⟩

theorem find?_tableIn_nil (part key : String) : Keyed.find? (tableIn [] part) key = none := rfl

theorem find?_tableIn_cons (r : SettingRow) (rs : List SettingRow) (part key : String) :
    Keyed.find? (tableIn (r :: rs) part) key =
      if r.part = part ∧ r.key = key then r.value.or (Keyed.find? (tableIn rs part) key)
      else Keyed.find? (tableIn rs part) key := by
  unfold tableIn
  by_cases hpart : r.part = part
  · cases hvalue : r.value with
    | none => simp [hpart, hvalue]
    | some v => by_cases hkey : r.key = key <;> simp [hpart, hvalue, hkey, Keyed.find?]
  · simp [hpart]

theorem keys_tableIn_sublist (rs : List SettingRow) (part : String) :
    (Keyed.keys (tableIn rs part)).Sublist (rs.map (·.key)) := by
  induction rs with
  | nil => exact .slnil
  | cons r rs ih =>
    unfold tableIn at ih ⊢
    by_cases hpart : r.part = part
    · cases hvalue : r.value with
      | none => simpa [hpart, hvalue] using ih.cons r.key
      | some v => simpa [hpart, hvalue, Keyed.keys] using ih
    · simpa [hpart] using ih.cons r.key

def keys : List String :=
  ["protocol", "host", "port", "username", "password", "request_timeout", "public_user",
   "provision_failure_policy", "update_failure_policy", "level", "json_format"]

theorem keys_tableIn_rows (ch : Choices) (part : String) :
    (Keyed.keys (tableIn ch.rows part)).Sublist keys :=
  keys_tableIn_sublist ch.rows part

theorem readable_rows (ch : Choices) : ∀ r ∈ ch.rows, ∀ v, r.value = some v → Toml.Readable v := by
  have hport (p : UInt16) : p.toNat < 0x8000000000000000 := by
    have hlt := p.toNat_lt
    omega
  simp [rows, Toml.Readable, hport, -Bool.exists_bool, -Bool.forall_bool]

def written (ch : Choices) : List (String × SettingsTable) :=
  ["store", "permissions", "logging"].map fun part => (part, tableIn ch.rows part)

theorem filed_written (ch : Choices) : ch.Filed ch.written where
  parts := by
    simp only [written, Keyed.keys, List.map_cons, List.map_nil]
    decide
  keys := by
    intro e he
    obtain ⟨part, -, rfl⟩ := List.mem_map.1 he
    exact (ch.keys_tableIn_rows part).nodup (by decide)
  chosen := by
    simp [rows, settingIn, written, Keyed.find?, find?_tableIn_cons, find?_tableIn_nil]
  untargeted := by
    simp [rows, settingIn, written, Keyed.find?, find?_tableIn_cons, find?_tableIn_nil]

theorem readable_written (ch : Choices) :
    ∀ e ∈ ch.written, Toml.Bare e.1 ∧ Toml.ReadableTable e.2 := by
  intro e he
  obtain ⟨part, hpart, rfl⟩ := List.mem_map.1 he
  have hparts : ∀ part ∈ ["store", "permissions", "logging"], Toml.Bare part := by decide
  have hkeys : ∀ key ∈ keys, Toml.Bare key := by decide
  have hnames := ch.keys_tableIn_rows part
  refine ⟨hparts part hpart, fun key hkey => hkeys key (hnames.subset hkey), ?_,
    hnames.nodup (by decide)⟩
  rintro ⟨key, v⟩ hv
  obtain ⟨r, hr, -, -, hvalue⟩ := mem_tableIn.1 hv
  exact ch.readable_rows r hr v hvalue

def exported (ch : Choices) : Environment := fun name =>
  (ch.rows.find? (·.name = name)).bind fun r => r.value.map spelled

theorem exported_exported (ch : Choices) : ch.Exported ch.exported := by
  simp [Exported, exported, rows]

end Written

/-- Any choices can be put into variables and into a file, and whichever way the program comes by
them, it ends up with the same. -/
theorem sources_agree (ch : Choices) :
    (∃ env sections text, ch.Exported env ∧ ch.Filed sections ∧
      Toml.read? text = some (Toml.tableOf sections)) ∧
    ∀ (env : Environment) (sections : List (String × SettingsTable)) (text : String)
      (dir : Directory) (path : String), ch.Exported env → ch.Filed sections →
        Toml.read? text = some (Toml.tableOf sections) → dir.read path = .ok text.toUTF8 →
          ch.Agreed env.config (Config.load dir path) := by
  constructor
  · exact ⟨ch.exported, ch.written, Toml.write ch.written, ch.exported_exported, ch.filed_written,
      Toml.read?_write ch.readable_written ch.filed_written.parts⟩
  · intro env sections text dir path henv hfiled hread hdir
    have hload : Config.load dir path =
        Config.ofDatum Datum.tomlFormat (Toml.tableOf sections) >>= Config.accept := by
      rw [Config.load, hdir, Config.ofFile_text, Config.ofFileText, hread, Config.orMalformed,
        ok_bind]
    rw [hload]
    exact hfiled.agreed henv

/-- No host, no port and no such level. -/
def faulty : Choices :=
  { protocol := some "HTTPS", host := some "", port := some 0, level := some "loud" }

def faultyVariables : Environment := fun
  | "DOCGUARD_LOG_LEVEL" => some "loud"
  | "DOCGUARD_STORE_PORT" => some "0"
  | "DOCGUARD_STORE_HOST" => some ""
  | "DOCGUARD_STORE_PROTOCOL" => some "HTTPS"
  | _ => none

/-- The level stands first, and a name that means nothing stands among the others. -/
def faultySections : List (String × SettingsTable) :=
  [("logging", [("level", .text "loud")]),
   ("store", [("port", .whole 0), ("comment", .flag true), ("host", .text ""),
     ("protocol", .text "HTTPS")])]

def faultyText : String :=
  "# three faults\n[logging]\nlevel = 'loud'\n[store]\nport = 0\ncomment = true\nhost = \"\"\n" ++
    "\nprotocol = \"HTTPS\""

def faultyDirectory : Directory := [(["f"], .file faultyText.toUTF8)]

theorem sources_agree_faulty :
    faulty.Exported faultyVariables ∧ faulty.Filed faultySections ∧
      Toml.read? faultyText = some (Toml.tableOf faultySections) ∧
      faultyDirectory.read "f" = .ok faultyText.toUTF8 ∧
      faultyVariables.config = .error (.invalid .noHost) ∧
      Config.load faultyDirectory "f" = .error (.invalid .noHost) := by
  have hexported : faulty.Exported faultyVariables := by
    simp [Exported, rows, faulty, spelled, faultyVariables]
    rfl
  have hfiled : faulty.Filed faultySections := by
    refine ⟨by decide, by decide, ?_, by decide⟩
    simp [rows, faulty, settingIn, Keyed.find?, faultySections]
  have hread : Toml.read? faultyText = some (Toml.tableOf faultySections) := by
    have hsections : (Toml.read? faultyText).bind Toml.sectionsOf? = some faultySections := by
      decide +kernel
    obtain ⟨d, hread, hd⟩ := Option.bind_eq_some_iff.1 hsections
    rw [hread, Toml.tableOf_of_sectionsOf? hd]
  have hdir : faultyDirectory.read "f" = .ok faultyText.toUTF8 := by
    have hslash : "f".endsWith "/" = false := by decide +kernel
    rw [Directory.read, Config.parts_f, ok_bind, hslash]
    rfl
  have hconfig : faultyVariables.config = .error (.invalid .noHost) := rfl
  have hagreed := faulty.sources_agree.2 _ _ _ _ _ hexported hfiled hread hdir
  rw [hconfig] at hagreed
  refine ⟨hexported, hfiled, hread, hdir, hconfig, ?_⟩
  generalize Config.load faultyDirectory "f" = loaded at hagreed
  cases hagreed
  rfl

end Choices

end Permits
