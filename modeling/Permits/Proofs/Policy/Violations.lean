import Permits.Proofs.Policy.Resolution
import Permits.Proofs.Policy.Username

namespace Permits

/-- A name that is there and has no control character. -/
def Identity.Usable (i : Identity) : Prop :=
  i.name ≠ "" ∧ ∀ c ∈ i.name.toList, Text.isControl c = false

/-- `v` and the sixty-four small hexadecimal digits of a digest. -/
def Identity.Hashed (i : Identity) : Prop :=
  ∃ digits, i.name.toList = 'v' :: digits ∧ digits.length = 64 ∧
    ∀ c ∈ digits, c ∈ "0123456789abcdef".toList

theorem Identity.isWellFormed_iff {i : Identity} : i.isWellFormed = true ↔ i.Usable := by
  simp [isWellFormed, Usable]

theorem Identity.isWellFormed_eq_false {i : Identity} : i.isWellFormed = false ↔ ¬ i.Usable := by
  rw [← isWellFormed_iff, Bool.not_eq_true]

theorem Identity.Hashed.isWellFormed {i : Identity} (h : i.Hashed) : i.isWellFormed = true := by
  obtain ⟨digits, hname, -, hdigits⟩ := h
  have hall : ("0123456789abcdef".toList.all (!Text.isControl ·)) = true := rfl
  have hplain (c : Char) (hc : c ∈ "0123456789abcdef".toList) : Text.isControl c = false := by
    simpa using List.all_eq_true.1 hall c hc
  refine isWellFormed_iff.2 ⟨?_, ?_⟩
  · intro hempty
    rw [hempty] at hname
    cases hname
  · rw [hname]
    exact List.forall_mem_cons.2 ⟨rfl, fun c hc => hplain c (hdigits c hc)⟩

namespace Policy

/-- The DIDs that the scope of writing calls for, in the order in which they are translated. -/
def writingDids (p : Policy) : List String :=
  match p.write with
  | .owner => []
  | .users => p.writeList ++ p.deleteList
  | .anyone => p.deleteList

def readingDids (p : Policy) : List String :=
  match p.read with
  | .owner => []
  | .users => p.readList
  | .anyone => []

def activeDids (p : Policy) : List String := p.writingDids ++ p.readingDids

end Policy

namespace Did

variable {did space : String}

def principal (did space : String) : Identity :=
  ⟨String.ofList ('v' :: Text.hexBytes (Hash.sha256 (message did space)))⟩

theorem hashed_principal (did space : String) : (principal did space).Hashed := by
  refine ⟨Text.hexBytes (Hash.sha256 (message did space)), ?_, ?_, fun c hc => ?_⟩
  · exact String.toList_ofList
  · rw [Text.length_hexBytes, Hash.length_sha256]
  · exact Text.mem_hexBytes hc

theorem validate_eq_error_iff {e : PolicyError} : validate did = .error e ↔
    ∃ fault, check did = .error fault ∧ e = .malformedDid did fault := by
  unfold validate
  cases check did <;> simp [Except.mapError, eq_comm]

theorem eq_principal_of_username {i : Identity} (h : username did space = .ok i) :
    i = principal did space := by
  unfold username at h
  obtain ⟨_, -, h⟩ := bind_eq_ok.1 h
  by_cases hs : space = ""
  · rw [if_pos hs] at h
    cases h
  · rw [if_neg hs] at h
    cases h
    rfl

theorem username_eq_bind (hs : space ≠ "") (did : String) :
    username did space = validate did >>= fun _ => .ok (principal did space) := by
  cases h : validate did with
  | error e =>
    unfold username
    rw [h]
    rfl
  | ok _ => exact username_eq h hs

end Did

section Translation

variable {space : String}

theorem hashedTranslator_eq (hs : space ≠ "") (dids : List String) :
    hashedTranslator dids space =
      forM dids Did.validate >>= fun _ => .ok (dids.map (Did.principal · space)) := by
  unfold hashedTranslator
  induction dids with
  | nil => rfl
  | cons did dids ih =>
    rw [List.mapM_cons, ih, Did.username_eq_bind hs, List.forM_cons]
    simp only [bind_assoc, ok_bind, pure, Except.pure, List.map_cons]

/-- The names that a digest gives are usable, so only the DIDs themselves can be at fault. -/
theorem translateChecked_hashed (hs : space ≠ "") (dids : List String) :
    translateChecked hashedTranslator dids space =
      forM dids Did.validate >>= fun _ => .ok (dids.map (Did.principal · space)) := by
  have hfind : (dids.map (Did.principal · space)).find? (!·.isWellFormed) = none := by
    rw [List.find?_eq_none]
    intro i hi
    obtain ⟨did, -, rfl⟩ := List.mem_map.1 hi
    simp [(Did.hashed_principal did space).isWellFormed]
  unfold translateChecked
  split
  · next hempty =>
    rw [List.isEmpty_iff.1 hempty]
    rfl
  · rw [hashedTranslator_eq hs, bind_assoc]
    simp only [ok_bind, hfind]
    rfl

theorem resolveWrite_hashed (hs : space ≠ "") (owner shared : Identity) (p : Policy) : ∃ sets,
    resolveWrite owner shared space p hashedTranslator =
      forM p.writingDids Did.validate >>= fun _ => .ok sets := by
  unfold resolveWrite Policy.writingDids
  cases p.write with
  | owner => exact ⟨_, rfl⟩
  | users =>
    simp only [translateChecked_hashed hs, List.forM_append, bind_assoc, ok_bind]
    exact ⟨_, rfl⟩
  | anyone =>
    simp only [translateChecked_hashed hs, bind_assoc, ok_bind]
    exact ⟨_, rfl⟩

theorem resolveRead_hashed (hs : space ≠ "") (owner shared : Identity) (p : Policy) : ∃ readers,
    resolveRead owner shared space p hashedTranslator =
      forM p.readingDids Did.validate >>= fun _ => .ok readers := by
  unfold resolveRead Policy.readingDids
  cases p.read with
  | owner => exact ⟨_, rfl⟩
  | users =>
    simp only [translateChecked_hashed hs, bind_assoc, ok_bind]
    exact ⟨_, rfl⟩
  | anyone => exact ⟨_, rfl⟩

/-- Behind the checks of the names, resolving is to check the DIDs one after the other. -/
theorem resolve_hashed {owner shared : Identity} (howner : owner.Usable) (hs : space ≠ "")
    (hshared : shared.Usable) (policy : Option Policy) : ∃ u,
    resolve owner space policy hashedTranslator shared =
      forM (policy.getD .ownerOnly).activeDids Did.validate >>= fun _ => .ok u := by
  obtain ⟨⟨writers, deleters⟩, hwrite⟩ :=
    resolveWrite_hashed hs owner shared (policy.getD .ownerOnly)
  obtain ⟨readers, hread⟩ := resolveRead_hashed hs owner shared (policy.getD .ownerOnly)
  rw [resolve_eq, Identity.isWellFormed_iff.2 howner, Identity.isWellFormed_iff.2 hshared,
    if_neg hs]
  simp only [Bool.true_eq_false, if_false, hwrite, hread, Policy.activeDids, List.forM_append,
    bind_assoc, ok_bind]
  exact ⟨_, rfl⟩

end Translation

/-- Nothing is at fault that a resolution looks at. -/
structure Resolvable (owner shared : Identity) (space : String) (p : Policy) : Prop where
  owner : owner.Usable
  space : space ≠ ""
  shared : shared.Usable
  dids : ∀ did ∈ p.activeDids, Did.validate did = .ok ()

/-- The first thing that is at fault, in the order in which a resolution looks at what it is given:
owner, namespace, the identity that stands for anyone, and the DIDs that are called for. -/
inductive FirstViolation (owner shared : Identity) (space : String) (p : Policy) :
    PolicyError → Prop where
  | owner (fault : ¬ owner.Usable) : FirstViolation owner shared space p (.invalidOwner owner.name)
  | space (usable : owner.Usable) (fault : space = "") :
      FirstViolation owner shared space p .emptyNamespace
  | shared (usable : owner.Usable) (named : space ≠ "") (fault : ¬ shared.Usable) :
      FirstViolation owner shared space p (.invalidPublicIdentity shared.name)
  | did (usable : owner.Usable) (named : space ≠ "") (usable' : shared.Usable)
      {before after : List String} {did : String} (split : p.activeDids = before ++ did :: after)
      (accepted : ∀ d ∈ before, Did.validate d = .ok ()) {reason : DidFault}
      (fault : Did.check did = .error reason) :
      FirstViolation owner shared space p (.malformedDid did reason)

section Resolution

variable {owner shared : Identity} {space : String} {p : Policy} {policy : Option Policy}
  {e : PolicyError}

theorem resolvable_or_violation (owner shared : Identity) (space : String) (p : Policy) :
    Resolvable owner shared space p ∨ ∃ e, FirstViolation owner shared space p e := by
  by_cases howner : owner.Usable
  · by_cases hs : space = ""
    · exact .inr ⟨_, .space howner hs⟩
    by_cases hshared : shared.Usable
    · cases hdids : forM p.activeDids Did.validate with
      | ok _ => exact .inl ⟨howner, hs, hshared, forM_eq_ok_iff.1 hdids⟩
      | error e =>
        obtain ⟨before, did, after, hsplit, hbefore, hdid⟩ := forM_eq_error_iff.1 hdids
        obtain ⟨reason, hreason, rfl⟩ := Did.validate_eq_error_iff.1 hdid
        exact .inr ⟨_, .did howner hs hshared hsplit hbefore hreason⟩
    · exact .inr ⟨_, .shared howner hs hshared⟩
  · exact .inr ⟨_, .owner howner⟩

theorem Resolvable.resolve (h : Resolvable owner shared space (policy.getD .ownerOnly)) :
    ∃ u, resolve owner space policy hashedTranslator shared = .ok u := by
  obtain ⟨u, hu⟩ := resolve_hashed h.owner h.space h.shared policy
  rw [forM_eq_ok_iff.2 h.dids] at hu
  exact ⟨u, hu⟩

theorem FirstViolation.resolve
    (h : FirstViolation owner shared space (policy.getD .ownerOnly) e) :
    resolve owner space policy hashedTranslator shared = .error e := by
  cases h with
  | owner fault => rw [resolve_eq, if_pos (Identity.isWellFormed_eq_false.2 fault)]
  | space usable fault =>
    rw [resolve_eq, Identity.isWellFormed_iff.2 usable, if_neg Bool.true_eq_false.mp, if_pos fault]
  | shared usable named fault =>
    rw [resolve_eq, Identity.isWellFormed_iff.2 usable, if_neg Bool.true_eq_false.mp, if_neg named,
      if_pos (Identity.isWellFormed_eq_false.2 fault)]
  | did usable named usable' split accepted fault =>
    obtain ⟨u, hu⟩ := resolve_hashed usable named usable' policy
    have hdid := Did.validate_eq_error_iff.2 ⟨_, fault, rfl⟩
    rw [hu, forM_eq_error_iff.2 ⟨_, _, _, split, accepted, hdid⟩]
    rfl

/-- Hashing refuses nothing that the checks let through: a resolution fails just if a name, the
namespace or a DID that is called for is at fault, and then with the first of these. -/
theorem hashed_resolution_exact (owner shared : Identity) (space : String)
    (policy : Option Policy) :
    let p := policy.getD .ownerOnly
    let resolved := resolve owner space policy hashedTranslator shared
    ((∃ u, resolved = .ok u) ↔ Resolvable owner shared space p) ∧
      (∀ e, resolved = .error e ↔ FirstViolation owner shared space p e) ∧
      (∀ reason, resolved ≠ .error (.translation reason)) ∧
      ∀ dids is, hashedTranslator dids space = .ok is → ∀ i ∈ is, i.Hashed := by
  intro p resolved
  have herror (e : PolicyError) : resolved = .error e ↔ FirstViolation owner shared space p e := by
    refine ⟨fun h => ?_, FirstViolation.resolve⟩
    rcases resolvable_or_violation owner shared space p with hok | ⟨e', he'⟩
    · obtain ⟨u, hu⟩ := hok.resolve
      cases h.symm.trans hu
    · cases h.symm.trans he'.resolve
      exact he'
  refine ⟨⟨fun ⟨u, hu⟩ => ?_, Resolvable.resolve⟩, herror, fun reason h => ?_, ?_⟩
  · refine (resolvable_or_violation owner shared space p).resolve_right fun ⟨e, he⟩ => ?_
    cases hu.symm.trans he.resolve
  · cases (herror _).1 h
  · intro dids is his i hi
    obtain ⟨did, -, hdid⟩ := exists_of_forall₂ (mapM_eq_ok_iff.1 his).flip hi
    rw [Did.eq_principal_of_username hdid]
    exact Did.hashed_principal did space

/-- The idle list of writers holds what is no DID at all, and so does the list of readers, which is
looked at after the two faults among the deleters. -/
theorem hashed_resolution_exact_late :
    let p : Policy := ⟨.users, .anyone, ["?"], ["!"], ["did:a:1", "did::x", "did:a:"]⟩
    let q : Policy := { p with readList := ["did:a:2"], deleteList := ["did:a:1"] }
    let resolved (p : Policy) := resolve ⟨"alice"⟩ "app" (some p) hashedTranslator ⟨"public"⟩
    Resolvable ⟨"alice"⟩ ⟨"public"⟩ "app" q ∧ (∃ u, resolved q = .ok u) ∧
      FirstViolation ⟨"alice"⟩ ⟨"public"⟩ "app" p (.malformedDid "did::x" .noMethod) ∧
      resolved p = .error (.malformedDid "did::x" .noMethod) ∧
      hashedTranslator ["did:a:1"] "app" = .ok [Did.principal "did:a:1" "app"] ∧
      (Did.principal "did:a:1" "app").Hashed := by
  intro p q resolved
  have howner : Identity.Usable ⟨"alice"⟩ := Identity.isWellFormed_iff.1 rfl
  have hshared : Identity.Usable ⟨"public"⟩ := Identity.isWellFormed_iff.1 rfl
  have hspace : "app" ≠ "" := by decide
  have hq : Resolvable ⟨"alice"⟩ ⟨"public"⟩ "app" q := by
    have hdids : forM ["did:a:1", "did:a:2"] Did.validate = .ok () := rfl
    exact ⟨howner, hspace, hshared, forM_eq_ok_iff.1 hdids⟩
  have hp : FirstViolation ⟨"alice"⟩ ⟨"public"⟩ "app" p (.malformedDid "did::x" .noMethod) := by
    have hbefore : forM ["did:a:1"] Did.validate = .ok () := rfl
    have hsplit : p.activeDids = ["did:a:1"] ++ "did::x" :: ["did:a:", "?"] := rfl
    exact .did howner hspace hshared hsplit (forM_eq_ok_iff.1 hbefore) rfl
  have hname := hashedTranslator_eq hspace ["did:a:1"]
  obtain ⟨hok, -, -, hhashed⟩ := hashed_resolution_exact ⟨"alice"⟩ ⟨"public"⟩ "app" (some q)
  obtain ⟨-, herror, -, -⟩ := hashed_resolution_exact ⟨"alice"⟩ ⟨"public"⟩ "app" (some p)
  exact ⟨hq, hok.2 hq, hp, (herror _).2 hp, hname, hhashed _ _ hname _ List.mem_cons_self⟩

end Resolution

end Permits
