import Permits.Policy.Resolve
import Permits.Proofs.Data.Fallible

namespace Permits

/-- The identity is what the translator makes of some entry of a list. A list without entries
grants nothing, whatever the translator would answer. -/
def Translator.Names (t : Translator) (dids : List String) (space : String) (i : Identity) : Prop :=
  dids ≠ [] ∧ ∃ is, t dids space = .ok is ∧ i ∈ is

namespace Policy

variable (p : Policy) (owner shared : Identity) (space : String) (t : Translator)

def MayWrite (i : Identity) : Prop :=
  i = owner ∨ p.write = .users ∧ t.Names p.writeList space i ∨ p.write = .anyone ∧ i = shared

/-- Who may read without being allowed to write. -/
def MayRead (i : Identity) : Prop :=
  i = owner ∨ p.read = .users ∧ t.Names p.readList space i ∨ p.read = .anyone ∧ i = shared

/-- To whom deletion is granted, on top of the permission to write. -/
def GrantsDelete (i : Identity) : Prop :=
  i = owner ∨ p.write ≠ .owner ∧ t.Names p.deleteList space i

end Policy

namespace IdentitySet

@[simp] theorem contains_iff {s : IdentitySet} {i : Identity} : s.contains i ↔ i ∈ s.items := by
  simp [contains]

theorem mem_names {s : IdentitySet} {name : String} : name ∈ s.names ↔ ⟨name⟩ ∈ s.items := by
  constructor
  · intro h
    obtain ⟨i, hi, rfl⟩ := List.mem_map.1 h
    exact hi
  · intro h
    exact List.mem_map.2 ⟨⟨name⟩, h, rfl⟩

theorem nodup_names (s : IdentitySet) : s.names.Nodup := by
  have hname (i j : Identity) (hne : i ≠ j) : i.name ≠ j.name := by
    cases i
    cases j
    exact fun he => hne (congrArg Identity.mk he)
  exact List.pairwise_map.2 (s.nodup.imp (hname _ _))

theorem head?_insert {s : IdentitySet} {i j : Identity} (h : s.items.head? = some i) :
    (s.insert j).items.head? = some i := by
  unfold insert
  split
  · exact h
  · rw [List.head?_append, h]
    rfl

theorem head?_extend {s : IdentitySet} {i : Identity} (is : List Identity)
    (h : s.items.head? = some i) : (s.extend is).items.head? = some i := by
  induction is generalizing s with
  | nil => exact h
  | cons j is ih => exact ih (head?_insert h)

theorem head?_singleton (i : Identity) : (singleton i).items.head? = some i := by
  simp [singleton, insert, empty]

end IdentitySet

section

variable {owner shared : Identity} {space : String} {t : Translator} {p : Policy}

theorem mem_translateChecked {dids : List String} {is : List Identity}
    (h : translateChecked t dids space = .ok is) (i : Identity) :
    i ∈ is ↔ t.Names dids space i := by
  unfold translateChecked at h
  split at h
  · next he =>
    have hnil : dids = [] := List.isEmpty_iff.1 he
    cases h
    simp [Translator.Names, hnil]
  · next he =>
    have hne : dids ≠ [] := fun e => he (List.isEmpty_iff.2 e)
    obtain ⟨js, hjs, h⟩ := bind_eq_ok.1 h
    split at h
    · cases h
    · cases h
      simp [Translator.Names, hne, hjs]

theorem resolveWrite_ok {ws ds : IdentitySet}
    (h : resolveWrite owner shared space p t = .ok (ws, ds)) :
    (∀ i, i ∈ ws.items ↔ p.MayWrite owner shared space t i) ∧
    (∀ i, i ∈ ds.items ↔ p.GrantsDelete owner space t i) := by
  unfold resolveWrite at h
  cases hw : p.write with
  | owner =>
    rw [hw] at h
    cases h
    simp [Policy.MayWrite, Policy.GrantsDelete, hw]
  | users =>
    simp only [hw] at h
    obtain ⟨is, his, h⟩ := bind_eq_ok.1 h
    obtain ⟨js, hjs, h⟩ := bind_eq_ok.1 h
    cases h
    simp [Policy.MayWrite, Policy.GrantsDelete, hw, mem_translateChecked his,
      mem_translateChecked hjs]
  | anyone =>
    simp only [hw] at h
    obtain ⟨js, hjs, h⟩ := bind_eq_ok.1 h
    cases h
    simp [Policy.MayWrite, Policy.GrantsDelete, hw, mem_translateChecked hjs]

theorem resolveRead_ok {rs : IdentitySet} (h : resolveRead owner shared space p t = .ok rs) :
    rs.items.head? = some owner ∧
    ∀ i, i ∈ rs.items ↔ p.MayRead owner shared space t i := by
  unfold resolveRead at h
  have hown := IdentitySet.head?_singleton owner
  cases hr : p.read with
  | owner =>
    rw [hr] at h
    cases h
    simp [Policy.MayRead, hr, hown]
  | users =>
    simp only [hr] at h
    obtain ⟨is, his, h⟩ := bind_eq_ok.1 h
    cases h
    simp [Policy.MayRead, hr, mem_translateChecked his, IdentitySet.head?_extend is hown]
  | anyone =>
    rw [hr] at h
    cases h
    simp [Policy.MayRead, hr, IdentitySet.head?_insert hown]

/-- What a successful resolution gives, in terms of the policy that counts. -/
structure Resolved (owner shared : Identity) (space : String) (t : Translator) (p : Policy)
    (u : UserSets) : Prop where
  owner_eq : u.owner = owner
  scope_eq : u.writeScope = p.write
  mem_writers : ∀ i, i ∈ u.writers.items ↔ p.MayWrite owner shared space t i
  mem_deleters : ∀ i, i ∈ u.deleters.items ↔ p.GrantsDelete owner space t i
  mem_members : ∀ i, i ∈ u.members.items ↔
    p.MayRead owner shared space t i ∨ p.MayWrite owner shared space t i
  members_head : u.members.items.head? = some owner

/-- The checks come in this order, and before anything is translated. -/
theorem resolve_eq (owner shared : Identity) (space : String) (policy : Option Policy)
    (t : Translator) :
    resolve owner space policy t shared =
      if owner.isWellFormed = false then .error (.invalidOwner owner.name)
      else if space = "" then .error .emptyNamespace
      else if shared.isWellFormed = false then .error (.invalidPublicIdentity shared.name)
      else do
        let (writers, deleters) ← resolveWrite owner shared space (policy.getD .ownerOnly) t
        let readers ← resolveRead owner shared space (policy.getD .ownerOnly) t
        return { owner, writeScope := (policy.getD .ownerOnly).write, writers, readers, deleters,
                 members := readers.union writers } := by
  unfold resolve
  cases owner.isWellFormed <;> cases shared.isWellFormed <;> by_cases hs : space = "" <;>
    simp only [hs, Bool.not_false, Bool.not_true, if_true, if_false, Bool.false_eq_true] <;> rfl

theorem resolve_ok {policy : Option Policy} {u : UserSets}
    (h : resolve owner space policy t shared = .ok u) :
    Resolved owner shared space t (policy.getD .ownerOnly) u := by
  rw [resolve_eq] at h
  split at h
  · cases h
  split at h
  · cases h
  split at h
  · cases h
  obtain ⟨⟨ws, ds⟩, hw, h⟩ := bind_eq_ok.1 h
  obtain ⟨rs, hr, h⟩ := bind_eq_ok.1 h
  cases h
  obtain ⟨hmem, hdel⟩ := resolveWrite_ok hw
  obtain ⟨hhead, hread⟩ := resolveRead_ok hr
  refine ⟨rfl, rfl, hmem, hdel, ?_, IdentitySet.head?_extend _ hhead⟩
  intro i
  rw [IdentitySet.mem_union, hread, hmem]

/-- All that a translator may be given. -/
def Policy.lists (p : Policy) : List (List String) := [p.writeList, p.deleteList, p.readList]

/-- The translation of a list of the policy fails: the translator refuses the list, or it gives an
unusable name. -/
def Policy.Untranslated (p : Policy) (space : String) (t : Translator) (e : PolicyError) : Prop :=
  ∃ dids ∈ p.lists, t dids space = .error e ∨ ∃ reason, e = .translation reason

variable {e : PolicyError}

theorem translateChecked_error {dids : List String} (h : translateChecked t dids space = .error e) :
    t dids space = .error e ∨ ∃ reason, e = .translation reason := by
  unfold translateChecked at h
  split at h
  · cases h
  · obtain ht | ⟨is, -, h⟩ := bind_eq_error.1 h
    · exact .inl ht
    · split at h
      · cases h
        exact .inr ⟨_, rfl⟩
      · cases h

theorem resolveWrite_error (h : resolveWrite owner shared space p t = .error e) :
    p.Untranslated space t e := by
  unfold resolveWrite at h
  cases hw : p.write with
  | owner =>
    rw [hw] at h
    cases h
  | users =>
    simp only [hw] at h
    obtain h | ⟨is, -, h⟩ := bind_eq_error.1 h
    · exact ⟨p.writeList, by simp [Policy.lists], translateChecked_error h⟩
    obtain h | ⟨js, -, h⟩ := bind_eq_error.1 h
    · exact ⟨p.deleteList, by simp [Policy.lists], translateChecked_error h⟩
    · cases h
  | anyone =>
    simp only [hw] at h
    obtain h | ⟨js, -, h⟩ := bind_eq_error.1 h
    · exact ⟨p.deleteList, by simp [Policy.lists], translateChecked_error h⟩
    · cases h

theorem resolveRead_error (h : resolveRead owner shared space p t = .error e) :
    p.Untranslated space t e := by
  unfold resolveRead at h
  cases hr : p.read with
  | owner =>
    rw [hr] at h
    cases h
  | users =>
    simp only [hr] at h
    obtain h | ⟨is, -, h⟩ := bind_eq_error.1 h
    · exact ⟨p.readList, by simp [Policy.lists], translateChecked_error h⟩
    · cases h
  | anyone =>
    rw [hr] at h
    cases h

/-- Where the identity that stands for anyone is well formed, only the owner, the namespace and what
the translator makes of the lists can be at fault. -/
theorem resolve_error {policy : Option Policy} (hshared : shared.isWellFormed = true)
    (h : resolve owner space policy t shared = .error e) :
    e = .invalidOwner owner.name ∨ e = .emptyNamespace ∨
      (policy.getD .ownerOnly).Untranslated space t e := by
  rw [resolve_eq, hshared] at h
  split at h
  · cases h
    exact .inl rfl
  split at h
  · cases h
    exact .inr (.inl rfl)
  rw [if_neg Bool.true_eq_false.mp] at h
  obtain h | ⟨⟨ws, ds⟩, -, h⟩ := bind_eq_error.1 h
  · exact .inr (.inr (resolveWrite_error h))
  obtain h | ⟨rs, -, h⟩ := bind_eq_error.1 h
  · exact .inr (.inr (resolveRead_error h))
  · cases h

end

end Permits
