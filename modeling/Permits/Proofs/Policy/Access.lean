import Permits.Guard.Artifacts
import Permits.Proofs.Policy.Resolution
import Mathlib.Tactic.Tauto

namespace Permits

namespace GuardRule

def Lists (r : GuardRule) (caller : Option String) : Prop :=
  ∃ name, caller = some name ∧ ⟨name⟩ ∈ r.allowed.items

theorem lists_iff (r : GuardRule) (caller : Option String) :
    caller.any r.allowed.containsName = true ↔ r.Lists caller := by
  cases caller with
  | none => simp [Lists]
  | some name => simp [Lists, IdentitySet.containsName]

theorem evaluate_write_iff (s : IdentitySet) (caller : Option String) (deleting : Bool) :
    (GuardRule.mk .write s).evaluate caller deleting = .allow ↔
      (GuardRule.mk .write s).Lists caller := by
  rw [← lists_iff]
  simp [evaluate]

theorem evaluate_delete_iff (s : IdentitySet) (caller : Option String) (deleting : Bool) :
    (GuardRule.mk .delete s).evaluate caller deleting = .allow ↔
      (GuardRule.mk .delete s).Lists caller ∨ deleting = false := by
  rw [← lists_iff]
  cases h : caller.any s.containsName <;> simp [evaluate, h]

end GuardRule

namespace Artifacts

/-- A change passes all guards together. -/
def Allows (a : Artifacts) (caller : Option String) (deleting : Bool) : Prop :=
  ∀ r ∈ a.guards, r.evaluate caller deleting = .allow

instance (a : Artifacts) (caller : Option String) (deleting : Bool) :
    Decidable (a.Allows caller deleting) :=
  inferInstanceAs (Decidable (∀ r ∈ a.guards, r.evaluate caller deleting = .allow))

/-- The compiled guards and the descriptor say what the policy means. -/
structure Enforces (a : Artifacts) (p : Policy) (owner shared : Identity) (space : String)
    (t : Translator) : Prop where
  write_iff : ∀ caller, a.writeGuard.evaluate caller false = .allow ↔
    ∃ name, caller = some name ∧ p.MayWrite owner shared space t ⟨name⟩
  deleteGuard_iff : a.deleteGuard.isSome ↔ p.write = .anyone
  delete_iff : ∀ caller, a.Allows caller true ↔
    ∃ name, caller = some name ∧ p.MayWrite owner shared space t ⟨name⟩ ∧
      (p.write = .anyone → ⟨name⟩ = owner ∨ t.Names p.deleteList space ⟨name⟩)
  admins_eq : a.descriptor.admins = { names := [owner.name], roles := [] }
  members_nodup : a.descriptor.members.names.Nodup
  members_head : a.descriptor.members.names.head? = some owner.name
  mem_members : ∀ name, name ∈ a.descriptor.members.names ↔
    p.MayWrite owner shared space t ⟨name⟩ ∨ p.read = .anyone ∧ ⟨name⟩ = shared ∨
      p.read = .users ∧ t.Names p.readList space ⟨name⟩

variable {owner shared : Identity} {space : String} {t : Translator} {p : Policy} {u : UserSets}

theorem compile_writeGuard_lists (h : Resolved owner shared space t p u) (caller : Option String) :
    (compile u).writeGuard.Lists caller ↔
      ∃ name, caller = some name ∧ p.MayWrite owner shared space t ⟨name⟩ := by
  simp only [GuardRule.Lists, compile, h.mem_writers]

theorem compile_deleteGuard (h : Resolved owner shared space t p u) :
    (compile u).deleteGuard = if p.write = .anyone then some ⟨.delete, u.deleters⟩ else none := by
  simp only [compile, UserSets.needsDeleteGuard, h.scope_eq, decide_eq_true_eq]

/-- Both guards look at a deletion, so a grant to delete is worth nothing without the permission to
write. -/
theorem compile_allows_delete_iff (h : Resolved owner shared space t p u)
    (caller : Option String) :
    (compile u).Allows caller true ↔
      ∃ name, caller = some name ∧ p.MayWrite owner shared space t ⟨name⟩ ∧
        (p.write = .anyone → p.GrantsDelete owner space t ⟨name⟩) := by
  have hw : (compile u).writeGuard.evaluate caller true = .allow ↔
      (compile u).writeGuard.Lists caller := GuardRule.evaluate_write_iff u.writers caller true
  have hd : (GuardRule.mk .delete u.deleters).evaluate caller true = .allow ↔
      ∃ name, caller = some name ∧ p.GrantsDelete owner space t ⟨name⟩ := by
    simp [GuardRule.evaluate_delete_iff, GuardRule.Lists, h.mem_deleters]
  unfold Allows guards
  rw [compile_deleteGuard h, List.forall_mem_cons, hw, compile_writeGuard_lists h]
  by_cases hs : p.write = .anyone
  · simp only [hs, if_true, Option.toList_some, List.forall_mem_singleton, hd, forall_const]
    constructor
    · rintro ⟨⟨name, rfl, hwrite⟩, ⟨other, ho, hdelete⟩⟩
      cases ho
      exact ⟨name, rfl, hwrite, hdelete⟩
    · rintro ⟨name, rfl, hwrite, hdelete⟩
      exact ⟨⟨name, rfl, hwrite⟩, ⟨name, rfl, hdelete⟩⟩
  · simp [hs]

/-- What a policy means, end to end: the artifacts of every policy that resolves let through
exactly the changes that the policy grants, and name exactly the readers. -/
theorem compile_enforces (policy : Option Policy)
    (h : resolve owner space policy t shared = .ok u) :
    (compile u).Enforces (policy.getD .ownerOnly) owner shared space t := by
  have hr := resolve_ok h
  constructor
  · intro caller
    rw [← compile_writeGuard_lists hr]
    exact GuardRule.evaluate_write_iff u.writers caller false
  · rw [compile_deleteGuard hr]
    split <;> simp_all
  · intro caller
    rw [compile_allows_delete_iff hr]
    have hgrant (hs : (policy.getD .ownerOnly).write = .anyone) (i : Identity) :
        (policy.getD .ownerOnly).GrantsDelete owner space t i ↔
          i = owner ∨ t.Names (policy.getD .ownerOnly).deleteList space i := by
      simp [Policy.GrantsDelete, hs]
    constructor
    · rintro ⟨name, hn, hwrite, hdelete⟩
      exact ⟨name, hn, hwrite, fun hs => (hgrant hs _).1 (hdelete hs)⟩
    · rintro ⟨name, hn, hwrite, hdelete⟩
      exact ⟨name, hn, hwrite, fun hs => (hgrant hs _).2 (hdelete hs)⟩
  · simp [compile, SecurityDescriptor.ofOwner, hr.owner_eq]
  · exact IdentitySet.nodup_names u.members
  · simp [compile, SecurityDescriptor.ofOwner, IdentitySet.names, hr.members_head]
  · intro name
    have hm : name ∈ (compile u).descriptor.members.names ↔ ⟨name⟩ ∈ u.members.items :=
      IdentitySet.mem_names
    rw [hm, hr.mem_members]
    simp only [Policy.MayRead, Policy.MayWrite]
    tauto

/-- Here one entry of a list stands for the owner and another for the shared identity. -/
theorem compile_enforces_coinciding :
    ∃ u, resolve ⟨"alice"⟩ "app"
        (some ⟨.users, .anyone, ["did:a:1"], [], ["did:a:1", "did:b:2"]⟩)
        (fun dids _ => .ok (dids.map fun did => ⟨if did = "did:a:1" then "alice" else "public"⟩))
        ⟨"public"⟩ = .ok u ∧
      (compile u).Enforces ⟨.users, .anyone, ["did:a:1"], [], ["did:a:1", "did:b:2"]⟩ ⟨"alice"⟩
        ⟨"public"⟩ "app"
        (fun dids _ => .ok (dids.map fun did => ⟨if did = "did:a:1" then "alice" else "public"⟩)) :=
  ⟨_, rfl, compile_enforces (some _) rfl⟩

/-- Under a scope that has a list of deleters, such a grant takes effect for exactly those that may
write as well, and the grants of a policy all take effect exactly if every entry of that list may
write. -/
theorem delete_grant_effective_iff (policy : Option Policy)
    (h : resolve owner space policy t shared = .ok u)
    (hs : (policy.getD .ownerOnly).write ≠ .owner) :
    (∀ i ∈ u.deleters.items, (compile u).Allows (some i.name) true ↔
      (policy.getD .ownerOnly).MayWrite owner shared space t i) ∧
    ((∀ i ∈ u.deleters.items, (compile u).Allows (some i.name) true) ↔
      ∀ i, t.Names (policy.getD .ownerOnly).deleteList space i →
        (policy.getD .ownerOnly).MayWrite owner shared space t i) := by
  have hr := resolve_ok h
  have hone (i : Identity) (hi : i ∈ u.deleters.items) : (compile u).Allows (some i.name) true ↔
      (policy.getD .ownerOnly).MayWrite owner shared space t i := by
    rw [compile_allows_delete_iff hr]
    constructor
    · rintro ⟨name, hn, hwrite, -⟩
      cases hn
      exact hwrite
    · intro hwrite
      exact ⟨i.name, rfl, hwrite, fun _ => (hr.mem_deleters i).1 hi⟩
  refine ⟨hone, ?_⟩
  constructor
  · intro hall i hi
    have hmem : i ∈ u.deleters.items := (hr.mem_deleters i).2 (.inr ⟨hs, hi⟩)
    exact (hone i hmem).1 (hall i hmem)
  · intro hall i hi
    apply (hone i hi).2
    rcases (hr.mem_deleters i).1 hi with rfl | ⟨-, hlist⟩
    · exact .inl rfl
    · exact hall i hlist

theorem delete_grant_effective_writer :
    ∃ u, resolve ⟨"alice"⟩ "app" (some ⟨.owner, .users, [], ["did:a:carol"], ["did:a:carol"]⟩)
        (fun dids _ => .ok (dids.map fun _ => ⟨"carol"⟩)) ⟨"public"⟩ = .ok u ∧
      ⟨"carol"⟩ ∈ u.deleters.items ∧
      (∀ i ∈ u.deleters.items, (compile u).Allows (some i.name) true) := by
  have h : resolve ⟨"alice"⟩ "app" (some ⟨.owner, .users, [], ["did:a:carol"], ["did:a:carol"]⟩)
      (fun dids _ => .ok (dids.map fun _ => ⟨"carol"⟩)) ⟨"public"⟩ = .ok _ := rfl
  refine ⟨_, h, by decide, ?_⟩
  apply (delete_grant_effective_iff _ h (by decide)).2.2
  intro i hi
  exact .inr (.inl ⟨rfl, hi⟩)

/-- A listed deleter who may not write is refused by the write guard, whichever scope lists them. -/
theorem listed_deleter_refused :
    (∃ u, resolve ⟨"alice"⟩ "app" (some { write := .users, deleteList := ["did:a:carol"] })
        (fun dids _ => .ok (dids.map fun _ => ⟨"carol"⟩)) ⟨"public"⟩ = .ok u ∧
      ⟨"carol"⟩ ∈ u.deleters.items ∧ ¬ (compile u).Allows (some "carol") true) ∧
    (∃ u, resolve ⟨"alice"⟩ "app" (some { write := .anyone, deleteList := ["did:a:carol"] })
        (fun dids _ => .ok (dids.map fun _ => ⟨"carol"⟩)) ⟨"public"⟩ = .ok u ∧
      ⟨"carol"⟩ ∈ u.deleters.items ∧ ¬ (compile u).Allows (some "carol") true) :=
  ⟨⟨_, rfl, by decide, by decide⟩, ⟨_, rfl, by decide, by decide⟩⟩

end Artifacts

end Permits
