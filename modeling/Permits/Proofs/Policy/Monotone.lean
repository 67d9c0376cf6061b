import Permits.Proofs.Policy.Resolution

namespace Permits

/-- Every DID of a list is translated as it is alone. -/
def Translator.Independent (t : Translator) : Prop :=
  ∀ dids space is, t dids space = .ok is ↔
    List.Forall₂ (fun did i => t [did] space = .ok [i]) dids is

/-- Two policies with the same scopes whose lists are related wherever a scope calls for them. -/
structure Policy.Related (R : List String → List String → Prop) (p q : Policy) : Prop where
  read : p.read = q.read
  write : p.write = q.write
  readList : p.read = .users → R p.readList q.readList
  writeList : p.write = .users → R p.writeList q.writeList
  deleteList : p.write = .users ∨ p.write = .anyone → R p.deleteList q.deleteList

namespace UserSets

/-- Nobody has a part in the first sets that has none in the second ones. -/
structure Within (v u : UserSets) : Prop where
  owner : v.owner = u.owner
  writeScope : v.writeScope = u.writeScope
  writers : v.writers.items ⊆ u.writers.items
  readers : v.readers.items ⊆ u.readers.items
  deleters : v.deleters.items ⊆ u.deleters.items
  members : v.members.items ⊆ u.members.items

structure Same (v u : UserSets) : Prop where
  writers : v.writers.sameMembers u.writers = true
  readers : v.readers.sameMembers u.readers = true
  deleters : v.deleters.sameMembers u.deleters = true
  members : v.members.sameMembers u.members = true

end UserSets

namespace IdentitySet

theorem sameMembers_of_subset {s t : IdentitySet} (h : s.items ⊆ t.items)
    (h' : t.items ⊆ s.items) : s.sameMembers t = true := by
  have hperm := (List.perm_ext_iff_of_nodup s.nodup t.nodup).2 fun _ =>
    ⟨fun hi => h hi, fun hi => h' hi⟩
  have hall : s.isSuperset t = true := List.all_eq_true.2 fun i hi => contains_iff.2 (h' hi)
  simp [sameMembers, size, hperm.length_eq, hall]

theorem extend_subset {s : IdentitySet} {is js : List Identity} (h : is ⊆ js) :
    (s.extend is).items ⊆ (s.extend js).items := by
  intro i hi
  rw [mem_extend] at hi ⊢
  exact hi.imp_right fun hi => h hi

theorem union_subset {s s' t t' : IdentitySet} (hs : s.items ⊆ s'.items)
    (ht : t.items ⊆ t'.items) : (s.union t).items ⊆ (s'.union t').items := by
  intro i hi
  rw [mem_union] at hi ⊢
  exact hi.imp (fun hi => hs hi) fun hi => ht hi

end IdentitySet

theorem UserSets.Within.same {u v : UserSets} (h : v.Within u) (h' : u.Within v) : v.Same u where
  writers := IdentitySet.sameMembers_of_subset h.writers h'.writers
  readers := IdentitySet.sameMembers_of_subset h.readers h'.readers
  deleters := IdentitySet.sameMembers_of_subset h.deleters h'.deleters
  members := IdentitySet.sameMembers_of_subset h.members h'.members

section Translation

variable {t : Translator} {space : String} {dids dids' : List String} {is js : List Identity}

theorem Translator.independent_of_single (f : String → String → Except PolicyError Identity) :
    Translator.Independent fun dids space => dids.mapM (f · space) := by
  have hsingle (did space : String) (i : Identity) :
      [did].mapM (f · space) = .ok [i] ↔ f did space = .ok i := by
    cases h : f did space <;> simp [h, bind, Except.bind, pure, Except.pure]
  intro dids space is
  simp only [hsingle]
  exact mapM_eq_ok_iff

theorem hashedTranslator_independent : hashedTranslator.Independent :=
  Translator.independent_of_single Did.username

/-- A list is translated just if each of its DIDs is, to usable names. -/
theorem translateChecked_eq_ok_iff (ht : t.Independent) :
    translateChecked t dids space = .ok is ↔
      List.Forall₂ (fun did i => t [did] space = .ok [i]) dids is ∧
        ∀ i ∈ is, i.isWellFormed = true := by
  unfold translateChecked
  cases dids with
  | nil =>
    constructor
    · intro h
      cases h
      exact ⟨.nil, fun _ hi => absurd hi List.not_mem_nil⟩
    · rintro ⟨h, -⟩
      cases h
      rfl
  | cons did rest =>
    rw [if_neg (by simp), bind_eq_ok]
    constructor
    · rintro ⟨js, hjs, h⟩
      split at h
      · cases h
      · next hfind =>
        cases h
        exact ⟨(ht _ _ _).1 hjs, by simpa using hfind⟩
    · rintro ⟨h, hformed⟩
      have hfind : is.find? (!·.isWellFormed) = none := by simpa using hformed
      refine ⟨is, (ht _ _ _).2 h, ?_⟩
      rw [hfind]
      rfl

/-- DIDs of a list that is translated have names among those of the list, in whatever order and
however often they come. -/
theorem translateChecked_subset (ht : t.Independent) (hsub : dids ⊆ dids')
    (h : translateChecked t dids' space = .ok js) :
    ∃ is, translateChecked t dids space = .ok is ∧ is ⊆ js := by
  obtain ⟨hall, hformed⟩ := (translateChecked_eq_ok_iff ht).1 h
  have hpart : ∃ is, List.Forall₂ (fun did i => t [did] space = .ok [i]) dids is ∧ is ⊆ js := by
    clear h
    induction dids with
    | nil => exact ⟨[], .nil, List.nil_subset js⟩
    | cons did rest ih =>
      obtain ⟨is, his, hjs⟩ := ih (List.subset_of_cons_subset hsub)
      obtain ⟨i, hi, hdid⟩ := exists_of_forall₂ hall (hsub List.mem_cons_self)
      exact ⟨i :: is, .cons hdid his, List.cons_subset.2 ⟨hi, hjs⟩⟩
  obtain ⟨is, his, hjs⟩ := hpart
  exact ⟨is, (translateChecked_eq_ok_iff ht).2 ⟨his, fun i hi => hformed i (hjs hi)⟩, hjs⟩

end Translation

section Resolution

variable {owner shared : Identity} {space : String} {t : Translator} {p q : Policy}

theorem resolveWrite_congr (h : p.Related Eq q) :
    resolveWrite owner shared space p t = resolveWrite owner shared space q t := by
  unfold resolveWrite
  rw [← h.write]
  cases hw : p.write with
  | owner => rfl
  | users => rw [h.writeList hw, h.deleteList (.inl hw)]
  | anyone => rw [h.deleteList (.inr hw)]

theorem resolveRead_congr (h : p.Related Eq q) :
    resolveRead owner shared space p t = resolveRead owner shared space q t := by
  unfold resolveRead
  rw [← h.read]
  cases hr : p.read with
  | owner => rfl
  | users => rw [h.readList hr]
  | anyone => rfl

/-- A list that no scope calls for is not looked at. -/
theorem resolve_congr (h : p.Related Eq q) :
    resolve owner space (some p) t shared = resolve owner space (some q) t shared := by
  simp only [resolve_eq, Option.getD_some, resolveWrite_congr h, resolveRead_congr h, h.write]

theorem resolveWrite_subset (ht : t.Independent) (h : p.Related (· ⊆ ·) q)
    {writers deleters : IdentitySet}
    (hq : resolveWrite owner shared space q t = .ok (writers, deleters)) :
    ∃ ws ds, resolveWrite owner shared space p t = .ok (ws, ds) ∧
      ws.items ⊆ writers.items ∧ ds.items ⊆ deleters.items := by
  unfold resolveWrite at hq ⊢
  rw [← h.write] at hq
  cases hw : p.write with
  | owner =>
    rw [hw] at hq
    cases hq
    exact ⟨_, _, rfl, List.Subset.refl _, List.Subset.refl _⟩
  | users =>
    simp only [hw] at hq
    obtain ⟨js, hjs, hq⟩ := bind_eq_ok.1 hq
    obtain ⟨ks, hks, hq⟩ := bind_eq_ok.1 hq
    cases hq
    obtain ⟨is, his, hsub⟩ := translateChecked_subset ht (h.writeList hw) hjs
    obtain ⟨ls, hls, hsub'⟩ := translateChecked_subset ht (h.deleteList (.inl hw)) hks
    refine ⟨_, _, ?_, IdentitySet.extend_subset hsub, IdentitySet.extend_subset hsub'⟩
    simp only [his, hls]
    rfl
  | anyone =>
    simp only [hw] at hq
    obtain ⟨ks, hks, hq⟩ := bind_eq_ok.1 hq
    cases hq
    obtain ⟨ls, hls, hsub⟩ := translateChecked_subset ht (h.deleteList (.inr hw)) hks
    refine ⟨_, _, ?_, List.Subset.refl _, IdentitySet.extend_subset hsub⟩
    simp only [hls]
    rfl

theorem resolveRead_subset (ht : t.Independent) (h : p.Related (· ⊆ ·) q) {readers : IdentitySet}
    (hq : resolveRead owner shared space q t = .ok readers) :
    ∃ rs, resolveRead owner shared space p t = .ok rs ∧ rs.items ⊆ readers.items := by
  unfold resolveRead at hq ⊢
  rw [← h.read] at hq
  cases hr : p.read with
  | owner =>
    rw [hr] at hq
    cases hq
    exact ⟨_, rfl, List.Subset.refl _⟩
  | users =>
    simp only [hr] at hq
    obtain ⟨js, hjs, hq⟩ := bind_eq_ok.1 hq
    cases hq
    obtain ⟨is, his, hsub⟩ := translateChecked_subset ht (h.readList hr) hjs
    refine ⟨_, ?_, IdentitySet.extend_subset hsub⟩
    simp only [his]
    rfl
  | anyone =>
    rw [hr] at hq
    cases hq
    exact ⟨_, rfl, List.Subset.refl _⟩

/-- Fewer DIDs resolve where more do, and to no user that those do not resolve to. -/
theorem resolve_within (ht : t.Independent) (h : p.Related (· ⊆ ·) q) {u : UserSets}
    (hq : resolve owner space (some q) t shared = .ok u) :
    ∃ v, resolve owner space (some p) t shared = .ok v ∧ v.Within u := by
  rw [resolve_eq] at hq ⊢
  split at hq
  · cases hq
  split at hq
  · cases hq
  split at hq
  · cases hq
  next howner hspace hshared =>
  obtain ⟨⟨writers, deleters⟩, hwrite, hq⟩ := bind_eq_ok.1 hq
  obtain ⟨readers, hread, hq⟩ := bind_eq_ok.1 hq
  cases hq
  obtain ⟨ws, ds, hws, hwriters, hdeleters⟩ := resolveWrite_subset ht h hwrite
  obtain ⟨rs, hrs, hreaders⟩ := resolveRead_subset ht h hread
  let v : UserSets :=
    { owner, writeScope := p.write, writers := ws, readers := rs, deleters := ds,
      members := rs.union ws }
  refine ⟨v, ?_, rfl, h.write, hwriters, hreaders, hdeleters,
    IdentitySet.union_subset hreaders hwriters⟩
  rw [if_neg howner, if_neg hspace, if_neg hshared, Option.getD_some, hws, ok_bind]
  simp only [hrs, ok_bind]
  rfl

/-- Only the lists that a scope calls for count, in failure as in success. Where each DID is
translated on its own, a policy with fewer DIDs resolves if one with more does, and gives nobody a
part that the other denies; neither order nor repetition changes a set. -/
theorem resolution_monotone (owner shared : Identity) (space : String) (t : Translator)
    (p q : Policy) :
    (p.Related Eq q →
      resolve owner space (some p) t shared = resolve owner space (some q) t shared) ∧
    (t.Independent → p.Related (· ⊆ ·) q → ∀ u, resolve owner space (some q) t shared = .ok u →
      ∃ v, resolve owner space (some p) t shared = .ok v ∧ v.Within u ∧
        (q.Related (· ⊆ ·) p → v.Same u)) := by
  refine ⟨resolve_congr, fun ht h u hq => ?_⟩
  obtain ⟨v, hp, hwithin⟩ := resolve_within ht h hq
  refine ⟨v, hp, hwithin, fun h' => ?_⟩
  obtain ⟨u', hq', hback⟩ := resolve_within ht h' hp
  cases hq.symm.trans hq'
  exact hwithin.same hback

/-- The idle list of writers holds what nobody translates; `r` has the DIDs of `p` once and in
order, and `q` one more. -/
theorem resolution_monotone_reordered :
    let t : Translator := fun dids space => dids.mapM fun did =>
      if did = "?" then .error (.translation did) else .ok ⟨space ++ did⟩
    let p : Policy := ⟨.users, .anyone, ["did:a:2", "did:a:1", "did:a:2"], ["?"], ["did:a:1"]⟩
    let q : Policy := ⟨.users, .anyone, ["did:a:1", "did:a:2"], [], ["did:a:3", "did:a:1"]⟩
    let r : Policy := ⟨.users, .anyone, ["did:a:1", "did:a:2"], [], ["did:a:1"]⟩
    let resolved (p : Policy) := resolve ⟨"alice"⟩ "app" (some p) t ⟨"public"⟩
    t.Independent ∧ p.Related Eq { p with writeList := [] } ∧ p.Related (· ⊆ ·) q ∧
      p.Related (· ⊆ ·) r ∧ r.Related (· ⊆ ·) p ∧
      resolved p = resolved { p with writeList := [] } ∧
      (∃ u v, resolved q = .ok u ∧ resolved p = .ok v ∧ v.Within u) ∧
      ∃ u v, resolved r = .ok u ∧ resolved p = .ok v ∧ v.Same u := by
  intro t p q r resolved
  have ht : t.Independent := Translator.independent_of_single fun did space =>
    if did = "?" then .error (.translation did) else .ok ⟨space ++ did⟩
  have hidle : p.Related Eq { p with writeList := [] } :=
    ⟨rfl, rfl, fun _ => rfl, nofun, fun _ => rfl⟩
  have hpq : p.Related (· ⊆ ·) q := ⟨rfl, rfl, by decide, nofun, by decide⟩
  have hpr : p.Related (· ⊆ ·) r := ⟨rfl, rfl, by decide, nofun, by decide⟩
  have hrp : r.Related (· ⊆ ·) p := ⟨rfl, rfl, by decide, nofun, by decide⟩
  have hmono := resolution_monotone ⟨"alice"⟩ ⟨"public"⟩ "app" t p
  have hq : resolved q = .ok _ := rfl
  have hr : resolved r = .ok _ := rfl
  obtain ⟨v, hp, hwithin, -⟩ := (hmono q).2 ht hpq _ hq
  obtain ⟨v', hp', -, hsame⟩ := (hmono r).2 ht hpr _ hr
  exact ⟨ht, hidle, hpq, hpr, hrp, (hmono _).1 hidle, ⟨_, v, hq, hp, hwithin⟩, _, v', hr, hp',
    hsame hrp⟩

end Resolution

end Permits
