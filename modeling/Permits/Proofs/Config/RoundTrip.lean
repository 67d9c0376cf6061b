import Permits.Config.File
import Permits.Proofs.Config.Usable
import Permits.Proofs.Data.Directory
import Permits.Proofs.Duration.RoundTrip
import Permits.Proofs.Toml.Document

namespace Permits

namespace Config

open Datum (Format)
open Toml (membersOf)

section Settings

variable {f : Format}

theorem textSetting_datum (s : String) : textSetting (Setting.datum (.text s)) = .ok s := rfl

theorem flagSetting_datum (b : Bool) : flagSetting (Setting.datum (.flag b)) = .ok b := rfl

theorem below?_datum {bound n : Nat} (h : n < bound) :
    (Setting.datum (.whole n)).below? bound = some n := by
  have hbound : (0 : Int) ≤ n ∧ (n : Int) < bound := by omega
  simp only [Setting.datum, Setting.json, Json.ofNat, Datum.ofJson, Datum.below?]
  rw [if_pos hbound, Int.toNat_natCast]

theorem portSetting_datum (p : UInt16) : portSetting (Setting.datum (.whole p.toNat)) = .ok p := by
  rw [portSetting, below?_datum p.toNat_lt, Option.map_some, UInt16.ofNat_toNat]
  rfl

theorem timeoutSetting_datum (d : Duration) :
    timeoutSetting (Setting.datum (.text d.text)) = .ok d := by
  rw [timeoutSetting, textSetting_datum]
  simp only [bind, Except.bind, Duration.parse_text]
  rfl

theorem policySetting_datum (p : FailurePolicy) :
    policySetting f (Setting.datum (.text p.word)) = .ok p := by
  cases p <;> rfl

end Settings

section Tables

variable {f : Format}

/-- Settings with names are taken one after the other. -/
theorem readSettings_table {α β : Type} {names : List String}
    {take : α → String → Datum → Except ConfigError α} (usual : α) (es : List (String × β))
    (value : β → Datum) :
    readSettings f names take usual (.table (es.map fun e => (some e.1, value e.2))) =
      es.foldlM (fun s e => take s e.1 (value e.2)) usual := by
  rw [readSettings, List.foldlM_map]
  rfl

theorem storeSettings_ofDatum (s : StoreSettings) :
    StoreSettings.ofDatum f (.table (membersOf s.table)) = .ok s := by
  rw [StoreSettings.ofDatum, membersOf, readSettings_table, StoreSettings.table]
  simp only [List.foldlM_cons, List.foldlM_nil, StoreSettings.take, textSetting_datum,
    portSetting_datum, timeoutSetting_datum]
  rfl

theorem permissionSettings_ofDatum (s : PermissionSettings) :
    PermissionSettings.ofDatum f (.table (membersOf s.table)) = .ok s := by
  rw [PermissionSettings.ofDatum, membersOf, readSettings_table, PermissionSettings.table]
  simp only [List.foldlM_cons, List.foldlM_nil, PermissionSettings.take, textSetting_datum,
    policySetting_datum]
  rfl

theorem logSettings_ofDatum (s : LogSettings) :
    LogSettings.ofDatum f (.table (membersOf s.table)) = .ok s := by
  rw [LogSettings.ofDatum, membersOf, readSettings_table, LogSettings.table]
  simp only [List.foldlM_cons, List.foldlM_nil, LogSettings.take, textSetting_datum,
    flagSetting_datum]
  rfl

theorem ofDatum_tableOf (c : Config) : ofDatum f (Toml.tableOf c.sections) = .ok c := by
  rw [ofDatum, Toml.tableOf, readSettings_table _ _ fun t => .table (membersOf t), sections]
  simp only [List.foldlM_cons, List.foldlM_nil, take, storeSettings_ofDatum,
    permissionSettings_ofDatum, logSettings_ofDatum]
  rfl

end Tables

section Files

variable {c : Config}

/-- The names of a table are the same whatever its settings hold. -/
theorem readable_of_names (names : List String) {t : SettingsTable} (hnames : t.map (·.1) = names)
    (hbare : ∀ name ∈ names, Toml.Bare name) (hnodup : names.Nodup)
    (hreadable : ∀ e ∈ t, Toml.Readable e.2) : Toml.ReadableTable t := by
  subst hnames
  exact ⟨hbare, hreadable, hnodup⟩

theorem readable_store (s : StoreSettings) : Toml.ReadableTable s.table := by
  have hport : s.port.toNat < 0x8000000000000000 := by
    have hlt := s.port.toNat_lt
    omega
  exact readable_of_names ["protocol", "host", "port", "username", "password", "request_timeout"]
    rfl (by decide) (by decide) (by simp [StoreSettings.table, Toml.Readable, hport])

theorem readable_permissions (s : PermissionSettings) : Toml.ReadableTable s.table :=
  readable_of_names ["public_user", "provision_failure_policy", "update_failure_policy"]
    rfl (by decide) (by decide) (by simp [PermissionSettings.table, Toml.Readable])

theorem readable_logging (s : LogSettings) : Toml.ReadableTable s.table :=
  readable_of_names ["level", "json_format", "with_target"]
    rfl (by decide) (by decide) (by simp [LogSettings.table, Toml.Readable])

theorem readable_sections (c : Config) :
    ∀ e ∈ c.sections, Toml.Bare e.1 ∧ Toml.ReadableTable e.2 := by
  have hstore : Toml.Bare "store" := by decide
  have hpermissions : Toml.Bare "permissions" := by decide
  have hlogging : Toml.Bare "logging" := by decide
  simp [sections, hstore, hpermissions, hlogging, readable_store, readable_permissions,
    readable_logging]

/-- What is written is read back, whatever it holds. -/
theorem ofFileText_fileText (c : Config) : ofFileText c.fileText = c.accept := by
  have hnodup : (c.sections.map (·.1)).Nodup := by
    simp only [sections, List.map_cons, List.map_nil]
    decide
  have hread : Toml.read? c.fileText = some (Toml.tableOf c.sections) :=
    Toml.read?_write c.readable_sections hnodup
  rw [ofFileText, hread, orMalformed, ok_bind, ofDatum_tableOf, ok_bind]

theorem ofFile_text (text path : String) : ofFile path (.ok text.toUTF8) = ofFileText text := by
  have htext : ((Except.ok text.toUTF8).bind textOf).mapError (ConfigError.read path) =
      .ok text := by
    show (textOf text.toUTF8).mapError (ConfigError.read path) = .ok text
    rw [textOf_toUTF8]
    rfl
  rw [ofFile, htext, ok_bind]

theorem ofFile_fileText (c : Config) (path : String) :
    ofFile path (.ok c.fileText.toUTF8) = c.accept := by
  rw [ofFile_text, ofFileText_fileText]

/-- Who loads a configuration that has been saved gets it with its words in small letters and all
else as it was, the timeout to the nanosecond, or hears what is wrong with it, and never that the
file makes no sense. -/
theorem loaded_as_saved (c : Config) (path : String) :
    let judged : Except ConfigError Config :=
      match c.normalize.validate with
      | .ok () => .ok c.normalize
      | .error cause => .error (.invalid cause)
    ofFile path (.ok c.fileText.toUTF8) = judged ∧
      (∀ dir dir', c.save dir path = .ok dir' → load dir' path = judged) ∧
      c.Respelled c.normalize := by
  intro judged
  have hjudged : c.accept = judged := accept_eq c
  have hread : ofFile path (.ok c.fileText.toUTF8) = judged :=
    (ofFile_fileText c path).trans hjudged
  refine ⟨hread, ?_, c.respelled_normalize⟩
  intro dir dir' hsave
  have hwrite : dir.write path c.fileText.toUTF8 = .ok dir' := by
    unfold save at hsave
    cases hw : dir.write path c.fileText.toUTF8 with
    | ok dir'' =>
      rw [hw] at hsave
      cases hsave
      rfl
    | error e =>
      rw [hw] at hsave
      cases hsave
  rw [load, Directory.read_write hwrite, hread]

/-- A year, a month, a day, an hour, a minute and a second, with some parts of a second. -/
def longTimeout : Duration := ⟨34277677, 1002003, by decide, by decide⟩

/-- Capital letters, quotes of both kinds, and a timeout that every unit of time has a share in. -/
def intricate : Config :=
  { store := { protocol := "HTTPS", password := "it's \"secret\"\\", timeout := longTimeout } }

theorem parts_f : Directory.parts "f" = .ok ["f"] := by
  have hsplit : "f".splitOn "/" = ["f"] := by
    rw [String.splitOn, if_neg (by decide), String.splitOnAux, if_neg (by decide +kernel),
      if_neg (by decide +kernel), String.splitOnAux, if_pos (by decide +kernel)]
    decide +kernel
  rw [Directory.parts, if_neg (by decide +kernel), if_neg (by decide), if_neg (by decide +kernel),
    hsplit]
  decide +kernel

theorem loaded_as_saved_intricate : longTimeout.text = "1year 1month 1day 1h 1m 1s 1ms 2us 3ns" ∧
    ∃ dir, intricate.save [] "f" = .ok dir ∧
      load dir "f" = .ok intricate.normalize := by
  have hslash : "f".endsWith "/" = false := by decide +kernel
  have hsave : intricate.save [] "f" =
      .ok [(["f"], .file intricate.fileText.toUTF8)] := by
    rw [save, Directory.write, parts_f, ok_bind, hslash]
    rfl
  have hsound : intricate.normalize.Sound :=
    ⟨.inr (by decide +kernel), by decide +kernel, by decide +kernel, by decide +kernel,
      by decide +kernel, by decide +kernel⟩
  have htext : longTimeout.text = "1year 1month 1day 1h 1m 1s 1ms 2us 3ns" := by decide +kernel
  have hload := (loaded_as_saved intricate "f").2.1 _ _ hsave
  rw [validate_eq_ok.2 hsound] at hload
  exact ⟨htext, _, hsave, hload⟩

end Files

end Config

end Permits
