import Permits.CommandLine.Run
import Permits.Proofs.Policy.Resolution

namespace Permits

namespace Text

theorem asciiLower_idem (c : Char) : asciiLower (asciiLower c) = asciiLower c := by
  unfold asciiLower
  by_cases h : 0x41 ≤ c.toNat ∧ c.toNat ≤ 0x5A
  · have hnat : (Char.ofNat (c.toNat + 32)).toNat = c.toNat + 32 := by
      have hvalid : (c.toNat + 32).isValidChar := .inl (by omega)
      rw [Char.ofNat, dif_pos hvalid]
      rfl
    rw [if_pos h, hnat, if_neg (by omega)]
  · rw [if_neg h, if_neg h]

theorem asciiLowercase_idem (s : String) :
    asciiLowercase (asciiLowercase s) = asciiLowercase s := by
  have hlower : asciiLower ∘ asciiLower = asciiLower := funext asciiLower_idem
  simp only [asciiLowercase, String.toList_ofList, List.map_map, hlower]

end Text

/-- The levels of a configuration are read as what they say, although capital letters are not made
small in the same way. -/
theorem LogLevel.parse_of_mem {s : String} (h : s ∈ Config.levels) :
    ∃ l, parse s = .ok l ∧ l.word = s := by
  simp only [Config.levels, List.mem_cons, List.not_mem_nil, or_false] at h
  obtain rfl | rfl | rfl | rfl | rfl := h
  · exact ⟨.trace, rfl, rfl⟩
  · exact ⟨.debug, rfl, rfl⟩
  · exact ⟨.info, rfl, rfl⟩
  · exact ⟨.warn, rfl, rfl⟩
  · exact ⟨.error, rfl, rfl⟩

theorem CommandLine.orFailure_eq_ok {α : Type} {wrap : ConfigError → Failure}
    {x : Except ConfigError α} {a : α} : orFailure wrap x = .ok a ↔ x = .ok a := by
  cases x with
  | ok b => simp [orFailure]
  | error e => cases e <;> simp [orFailure]

/-- The names that are made by hashing say nothing about anyone. -/
theorem hashedTranslator_ne (dids : List String) (space name : String) :
    hashedTranslator dids space ≠ .error (.invalidPublicIdentity name) := by
  intro h
  induction dids with
  | nil => cases h
  | cons did dids ih =>
    simp only [hashedTranslator, List.mapM_cons] at h ih
    obtain h | ⟨i, -, h⟩ := bind_eq_error.1 h
    · obtain h | ⟨-, -, h⟩ := bind_eq_error.1 h
      · unfold Did.validate at h
        cases hcheck : Did.check did with
        | ok =>
          rw [hcheck] at h
          cases h
        | error fault =>
          rw [hcheck] at h
          cases h
      · split at h
        · cases h
        · cases h
    · obtain h | ⟨is, -, h⟩ := bind_eq_error.1 h
      · exact ih h
      · cases h

namespace Config

variable {c given : Config}

theorem normalize_idem (c : Config) : c.normalize.normalize = c.normalize := by
  simp only [normalize, Text.asciiLowercase_idem]

/-- The same configuration, but for capital letters in its protocol and its level. -/
structure Respelled (c d : Config) : Prop where
  protocol : d.store.protocol = Text.asciiLowercase c.store.protocol
  level : d.logging.level = Text.asciiLowercase c.logging.level
  store : { d.store with protocol := c.store.protocol } = c.store
  permissions : d.permissions = c.permissions
  logging : { d.logging with level := c.logging.level } = c.logging

theorem respelled_normalize (c : Config) : c.Respelled c.normalize := ⟨rfl, rfl, rfl, rfl, rfl⟩

structure Sound (c : Config) : Prop where
  protocol : c.store.protocol = "http" ∨ c.store.protocol = "https"
  host : c.store.host ≠ ""
  port : c.store.port ≠ 0
  timeout : c.store.timeout.isZero = false
  publicUser : (Identity.mk c.permissions.publicUser).isWellFormed = true
  level : c.logging.level ∈ levels

theorem validate_eq_ok : c.validate = .ok () ↔ c.Sound := by
  unfold validate
  constructor
  · intro h
    split at h
    · cases h
    split at h
    · cases h
    split at h
    · cases h
    split at h
    · cases h
    split at h
    · cases h
    split at h
    · cases h
    next hprotocol hhost hport htimeout hpublic hlevel =>
      have hword := Decidable.or_iff_not_not_and_not.2 hprotocol
      exact ⟨hword, hhost, hport, by simpa using htimeout, by simpa using hpublic,
        Decidable.not_not.1 hlevel⟩
  · intro h
    have hprotocol := Decidable.or_iff_not_not_and_not.1 h.protocol
    rw [if_neg hprotocol, if_neg h.host, if_neg h.port]
    simp [h.timeout, h.publicUser, h.level]

theorem accept_eq (c : Config) :
    c.accept = match c.normalize.validate with
      | .ok () => .ok c.normalize
      | .error cause => .error (.invalid cause) := by
  simp only [accept]
  cases c.normalize.validate <;> rfl

theorem accept_eq_ok : given.accept = .ok c ↔ c = given.normalize ∧ c.Sound := by
  rw [accept_eq, ← validate_eq_ok]
  cases h : given.normalize.validate with
  | ok =>
    simp only [Except.ok.injEq]
    constructor
    · rintro rfl
      exact ⟨rfl, h⟩
    · exact fun hc => hc.1.symm
  | error cause =>
    simp only [reduceCtorEq, false_iff, not_and]
    rintro rfl
    simp [h]

/-- The ways in which the program comes by a configuration. -/
inductive Loaded (c : Config) : Prop where
  | environment {env : Environment} (h : env.config = .ok c)
  | file {path : String} {contents : Except FileError ByteArray} (h : ofFile path contents = .ok c)
  | arguments {s : CommandLine.Surroundings} {a : CommandLine.Arguments}
      (h : CommandLine.loadConfig s a = .ok c)

/-- On each of the ways the last thing is to accept what is there. -/
theorem Loaded.accepted (h : Loaded c) : ∃ given : Config, given.accept = .ok c := by
  cases h with
  | environment h =>
    obtain ⟨port, -, h⟩ := bind_eq_ok.1 h
    obtain ⟨timeout, -, h⟩ := bind_eq_ok.1 h
    obtain ⟨onProvision, -, h⟩ := bind_eq_ok.1 h
    obtain ⟨onUpdate, -, h⟩ := bind_eq_ok.1 h
    obtain ⟨json, -, h⟩ := bind_eq_ok.1 h
    exact ⟨_, h⟩
  | file h =>
    obtain ⟨text, -, h⟩ := bind_eq_ok.1 h
    obtain ⟨d, -, h⟩ := bind_eq_ok.1 h
    obtain ⟨given, -, h⟩ := bind_eq_ok.1 h
    exact ⟨given, h⟩
  | @arguments s a h =>
    unfold CommandLine.loadConfig at h
    cases hpath : a.config with
    | none =>
      simp only [hpath] at h
      obtain ⟨found, -, h⟩ := bind_eq_ok.1 h
      exact ⟨_, CommandLine.orFailure_eq_ok.1 h⟩
    | some path =>
      simp only [hpath] at h
      obtain ⟨found, -, h⟩ := bind_eq_ok.1 h
      exact ⟨_, CommandLine.orFailure_eq_ok.1 h⟩

/-- What the rest of the program may rely on. That the identity which stands for anyone is invalid
only a translator can say, of a list of the policy, and the one that hashes never does. -/
structure Usable (c : Config) : Prop where
  valid : c.validate = .ok ()
  normal : c.normalize = c
  logs : ∃ level : LogLevel, level.word = c.logging.level ∧
    LogConfig.ofSettings c.logging =
      .ok { level, withTarget := c.logging.withTarget, json := c.logging.json }
  publicUser : ∀ owner space policy t name,
    resolve owner space policy t ⟨c.permissions.publicUser⟩ =
        .error (.invalidPublicIdentity name) →
      ∃ dids ∈ (policy.getD .ownerOnly).lists, t dids space = .error (.invalidPublicIdentity name)
  hashed : ∀ owner space policy name,
    resolve owner space policy hashedTranslator ⟨c.permissions.publicUser⟩ ≠
      .error (.invalidPublicIdentity name)

theorem Sound.logs (h : c.Sound) : ∃ level : LogLevel, level.word = c.logging.level ∧
    LogConfig.ofSettings c.logging =
      .ok { level, withTarget := c.logging.withTarget, json := c.logging.json } := by
  obtain ⟨level, hparse, hword⟩ := LogLevel.parse_of_mem h.level
  exact ⟨level, hword, by rw [LogConfig.ofSettings, hparse]⟩

theorem Sound.publicUser_accepted (h : c.Sound) {owner : Identity} {space name : String}
    {policy : Option Policy} {t : Translator}
    (hresolve : resolve owner space policy t ⟨c.permissions.publicUser⟩ =
      .error (.invalidPublicIdentity name)) :
    ∃ dids ∈ (policy.getD .ownerOnly).lists,
      t dids space = .error (.invalidPublicIdentity name) := by
  obtain howner | hspace | ⟨dids, hmem, ht⟩ := resolve_error h.publicUser hresolve
  · cases howner
  · cases hspace
  · obtain ht | ⟨reason, hreason⟩ := ht
    · exact ⟨dids, hmem, ht⟩
    · cases hreason

/-- Whichever way a configuration comes in, the checks that are made later agree with those that it
has passed. -/
theorem usable_of_loaded (h : Loaded c) : c.Usable := by
  obtain ⟨given, haccept⟩ := h.accepted
  obtain ⟨hnormal, hsound⟩ := accept_eq_ok.1 haccept
  refine ⟨validate_eq_ok.2 hsound, ?_, hsound.logs, ?_, ?_⟩
  · rw [hnormal, normalize_idem]
  · intro owner space policy t name hresolve
    exact hsound.publicUser_accepted hresolve
  · intro owner space policy name hresolve
    obtain ⟨dids, -, ht⟩ := hsound.publicUser_accepted hresolve
    exact hashedTranslator_ne dids space name ht

theorem usable_of_loaded_warning :
    ∃ c, CommandLine.loadConfig
        ⟨fun name => if name = "DOCGUARD_STORE_PROTOCOL" then some "HTTPS" else none,
          fun _ => .error .missing⟩
        { logLevel := some "WARN", jsonLogs := true, command := .deprovision "db" } = .ok c ∧
      c.store.protocol = "https" ∧ c.logging.level = "warn" ∧ c.Usable := by
  refine ⟨{ store := { protocol := "https" }, logging := { level := "warn", json := true } },
    ?loaded, rfl, rfl, usable_of_loaded (.arguments ?loaded)⟩
  rfl

def faultfinder : Translator := fun _ _ => .error (.invalidPublicIdentity "public")

theorem publicUser_refused_faultfinder : ∃ c : Config,
    Loaded c ∧ (Identity.mk c.permissions.publicUser).isWellFormed = true ∧
      resolve ⟨"alice"⟩ "app1" (some { write := .users, writeList := ["did:a:bob"] }) faultfinder
          ⟨c.permissions.publicUser⟩ =
        .error (.invalidPublicIdentity "public") := by
  have husual : Environment.config (fun _ => none) = .ok {} := rfl
  exact ⟨{}, .environment husual, rfl, rfl⟩

end Config

end Permits
