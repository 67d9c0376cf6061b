import Permits.Data.Keyed

namespace Permits.Keyed

variable {α : Type}

/-- Names in increasing order, so that each occurs once. -/
def Increasing (m : Keyed α) : Prop := m.Pairwise fun x y => x.1 < y.1

variable {m : Keyed α} {key : String} {value : α} {e : String × α}

theorem increasing_nil : Increasing ([] : Keyed α) := .nil

theorem increasing_singleton (e : String × α) : Increasing [e] := List.pairwise_singleton ..

/-- A name in front is to be compared with the next one only. -/
theorem Increasing.cons {j k : String} {x y : α} (h : Increasing ((k, y) :: m)) (hlt : j < k) :
    Increasing ((j, x) :: (k, y) :: m) := by
  refine List.pairwise_cons.2 ⟨fun e he => ?_, h⟩
  rcases List.mem_cons.1 he with rfl | he
  · exact hlt
  · exact String.lt_trans hlt ((List.pairwise_cons.1 h).1 e he)

theorem mem_of_mem_put (h : e ∈ m.put key value) : e = (key, value) ∨ e ∈ m := by
  induction m with
  | nil => exact .inl (List.mem_singleton.1 h)
  | cons x rest ih =>
    obtain ⟨k, v⟩ := x
    unfold put at h
    split at h
    · rcases List.mem_cons.1 h with rfl | h
      · exact .inl rfl
      · exact .inr (List.mem_cons_of_mem _ h)
    split at h
    · exact (List.mem_cons.1 h).imp id id
    · rcases List.mem_cons.1 h with rfl | h
      · exact .inr List.mem_cons_self
      · exact (ih h).imp id (List.mem_cons_of_mem _)

theorem Increasing.put (h : m.Increasing) (key : String) (value : α) :
    (m.put key value).Increasing := by
  induction m with
  | nil => exact List.pairwise_singleton ..
  | cons x rest ih =>
    obtain ⟨k, v⟩ := x
    obtain ⟨hfirst, hrest⟩ := List.pairwise_cons.1 h
    unfold Keyed.put
    split
    · next hk =>
      subst hk
      exact List.pairwise_cons.2 ⟨hfirst, hrest⟩
    split
    · next hlt =>
      refine List.pairwise_cons.2 ⟨fun y hy => ?_, h⟩
      rcases List.mem_cons.1 hy with rfl | hy
      · exact hlt
      · exact String.lt_trans hlt (hfirst y hy)
    · next hne hnlt =>
      have hlt : k < key :=
        String.not_le.1 fun hle => hne (String.le_antisymm (String.not_lt.1 hnlt) hle)
      refine List.pairwise_cons.2 ⟨fun y hy => ?_, ih hrest⟩
      rcases mem_of_mem_put hy with rfl | hy
      · exact hlt
      · exact hfirst y hy

theorem Increasing.erase (h : m.Increasing) (key : String) : (m.erase key).Increasing :=
  h.filter _

theorem Increasing.nodup_keys (h : m.Increasing) : m.keys.Nodup := by
  apply List.pairwise_map.2
  apply h.imp
  intro x y hlt heq
  rw [heq] at hlt
  exact String.lt_irrefl _ hlt

/-- A greater name comes last. -/
theorem put_of_forall_lt (h : ∀ e ∈ m, e.1 < key) : m.put key value = m ++ [(key, value)] := by
  induction m with
  | nil => rfl
  | cons x rest ih =>
    obtain ⟨k, v⟩ := x
    have hlt : k < key := h (k, v) List.mem_cons_self
    have hne : k ≠ key := fun heq => String.lt_irrefl _ (heq ▸ hlt)
    have hnlt : ¬ key < k := fun hgt => String.lt_irrefl _ (String.lt_trans hlt hgt)
    rw [Keyed.put, if_neg hne, if_neg hnlt, ih fun e he => h e (List.mem_cons_of_mem _ he)]
    rfl

theorem erase_of_find?_eq_none (h : m.find? key = none) : m.erase key = m := by
  induction m with
  | nil => rfl
  | cons x rest ih =>
    obtain ⟨k, v⟩ := x
    unfold find? at h
    split at h
    · cases h
    · next hne => simpa [erase, hne] using ih h

theorem mem_of_find? (h : m.find? key = some value) : (key, value) ∈ m := by
  induction m with
  | nil => cases h
  | cons x rest ih =>
    obtain ⟨k, v⟩ := x
    unfold find? at h
    split at h
    · next hk =>
      cases h
      exact hk ▸ List.mem_cons_self
    · exact List.mem_cons_of_mem _ (ih h)

theorem mem_keys : key ∈ m.keys ↔ m.contains key = true := by
  induction m with
  | nil => simp [keys, contains]
  | cons x rest ih =>
    obtain ⟨k, v⟩ := x
    by_cases hk : k = key
    · simp [keys, contains, find?, hk]
    · simpa [keys, contains, find?, hk, Ne.symm hk] using ih

/-- What stands in a list under a name of its own is found there. -/
theorem find?_of_mem (hnodup : m.keys.Nodup) (h : (key, value) ∈ m) :
    m.find? key = some value := by
  induction m with
  | nil => cases h
  | cons x rest ih =>
    obtain ⟨k, v⟩ := x
    obtain ⟨hnew, hnodup⟩ := List.nodup_cons.1 hnodup
    unfold find?
    rcases List.mem_cons.1 h with heq | h
    · cases heq
      rw [if_pos rfl]
    · have hne : k ≠ key := fun heq => hnew (List.mem_map.2 ⟨_, h, heq.symm⟩)
      rw [if_neg hne]
      exact ih hnodup h

theorem Increasing.find?_eq_some_iff (h : m.Increasing) :
    m.find? key = some value ↔ (key, value) ∈ m :=
  ⟨mem_of_find?, find?_of_mem h.nodup_keys⟩

theorem find?_eq_none_of_forall_ne (h : ∀ e ∈ m, e.1 ≠ key) : m.find? key = none := by
  cases hfind : m.find? key with
  | none => rfl
  | some w => exact absurd rfl (h _ (mem_of_find? hfind))

theorem find?_eq_none_of_notMem (h : key ∉ m.keys) : m.find? key = none :=
  find?_eq_none_of_forall_ne fun e he heq => h (List.mem_map.2 ⟨e, he, heq⟩)

theorem Increasing.length_put (h : m.Increasing) (key : String) (value : α) :
    (m.put key value).length = if m.contains key then m.length else m.length + 1 := by
  induction m with
  | nil => rfl
  | cons x rest ih =>
    obtain ⟨k, v⟩ := x
    obtain ⟨hfirst, hrest⟩ := List.pairwise_cons.1 h
    unfold Keyed.put
    split
    · next hk => simp [contains, find?, hk]
    · next hk =>
      split
      · next hlt =>
        have hnew : find? rest key = none := find?_eq_none_of_forall_ne fun e he heq =>
          String.lt_irrefl _ (String.lt_trans hlt (heq ▸ hfirst e he))
        simp [contains, find?, hk, hnew]
      · have hkeep : contains ((k, v) :: rest) key = contains rest key := by
          simp [contains, find?, hk]
        rw [List.length_cons, List.length_cons, ih hrest, hkeep]
        by_cases hold : contains rest key = true <;> simp [hold]

theorem Increasing.length_erase (h : m.Increasing) (hkey : m.contains key = true) :
    (m.erase key).length + 1 = m.length := by
  induction m with
  | nil => cases hkey
  | cons x rest ih =>
    obtain ⟨k, v⟩ := x
    obtain ⟨hfirst, hrest⟩ := List.pairwise_cons.1 h
    by_cases hk : k = key
    · subst hk
      have hgone : find? rest k = none := find?_eq_none_of_forall_ne fun e he heq =>
        String.lt_irrefl _ (heq ▸ hfirst e he)
      have herase : Keyed.erase ((k, v) :: rest) k = Keyed.erase rest k := by simp [Keyed.erase]
      rw [herase, erase_of_find?_eq_none hgone, List.length_cons]
    · have herase : Keyed.erase ((k, v) :: rest) key = (k, v) :: Keyed.erase rest key := by
        simp [Keyed.erase, hk]
      have hrestkey : Keyed.contains rest key = true := by simpa [contains, find?, hk] using hkey
      rw [herase, List.length_cons, List.length_cons, ih hrest hrestkey]

end Permits.Keyed
