import Mathlib.Data.List.Perm.Subperm
import Permits.Proofs.Policy.Monotone

namespace Permits

section Occurrences

variable {α : Type} [DecidableEq α]

theorem eraseDups_of_nodup {xs : List α} (h : xs.Nodup) : xs.eraseDups = xs := by
  induction xs with
  | nil => rfl
  | cons x xs ih =>
    obtain ⟨hx, h⟩ := List.nodup_cons.1 h
    have hkeep : xs.filter (fun y => !y == x) = xs := by
      apply List.filter_eq_self.2
      intro y hy
      have hne : y ≠ x := fun heq => hx (heq ▸ hy)
      simp [hne]
    rw [List.eraseDups_cons, hkeep, ih h]

/-- What stands first stands first among fewer. -/
theorem eraseDups_filter (p : α → Bool) (xs : List α) :
    (xs.filter p).eraseDups = xs.eraseDups.filter p := by
  match xs with
  | [] => rfl
  | x :: xs =>
    have ih := eraseDups_filter p (xs.filter fun y => !y == x)
    rw [List.filter_filter] at ih
    cases hp : p x with
    | true =>
      rw [List.filter_cons_of_pos hp, List.eraseDups_cons, List.eraseDups_cons,
        List.filter_cons_of_pos hp, List.filter_filter, ← ih]
      simp only [Bool.and_comm]
    | false =>
      have hrest : xs.filter (fun y => p y && !y == x) = xs.filter p := by
        apply List.filter_congr
        intro y _
        cases hy : p y with
        | false => rfl
        | true =>
          have hne : y ≠ x := fun heq => by rw [heq, hp] at hy; cases hy
          simp [hne]
      rw [List.filter_cons_of_neg (by simp [hp]), List.eraseDups_cons,
        List.filter_cons_of_neg (by simp [hp]), ← ih, hrest]
termination_by xs.length
decreasing_by exact Nat.lt_succ_of_le (List.length_filter_le ..)

theorem nodup_eraseDups (xs : List α) : xs.eraseDups.Nodup := by
  match xs with
  | [] => exact List.nodup_nil
  | x :: xs =>
    rw [List.eraseDups_cons, List.nodup_cons]
    refine ⟨?_, nodup_eraseDups _⟩
    rw [List.mem_eraseDups, List.mem_filter]
    simp
termination_by xs.length
decreasing_by exact Nat.lt_succ_of_le (List.length_filter_le ..)

/-- What stands first in the second of two lists stands behind what only the first list has. -/
theorem eraseDups_append_eq (xs ys : List α) :
    (xs ++ ys).eraseDups = xs.eraseDups ++ ys.eraseDups.filter (· ∉ xs) := by
  have hremove : ys.removeAll xs = ys.filter (· ∉ xs) := by
    apply List.filter_congr
    intro y _
    simp
  rw [List.eraseDups_append, hremove, eraseDups_filter]

/-- Who comes first may be settled in a list before it is put in front of another. -/
theorem eraseDups_append_left (xs ys : List α) :
    (xs.eraseDups ++ ys).eraseDups = (xs ++ ys).eraseDups := by
  rw [eraseDups_append_eq, eraseDups_append_eq, eraseDups_of_nodup (nodup_eraseDups xs)]
  simp only [List.mem_eraseDups]

theorem eraseDups_append_right (xs ys : List α) :
    (xs ++ ys.eraseDups).eraseDups = (xs ++ ys).eraseDups := by
  rw [eraseDups_append_eq, eraseDups_append_eq, eraseDups_of_nodup (nodup_eraseDups ys)]

end Occurrences

namespace IdentitySet

section Order

variable {s : IdentitySet} {i : Identity}

theorem names_insert_of_mem (h : i.name ∈ s.names) : s.insert i = s :=
  insert_of_mem (mem_names.1 h)

theorem names_insert_of_not_mem (h : i.name ∉ s.names) :
    (s.insert i).names = s.names ++ [i.name] := by
  have hnew : i ∉ s.items := fun hmem => h (mem_names.2 hmem)
  rw [insert, dif_neg hnew, names, List.map_append]
  rfl

theorem names_insert (s : IdentitySet) (i : Identity) :
    (s.insert i).names = (s.names ++ [i.name]).eraseDups := by
  rw [eraseDups_append_eq, eraseDups_of_nodup (nodup_names s),
    eraseDups_of_nodup (List.pairwise_singleton ..)]
  by_cases h : i.name ∈ s.names
  · rw [names_insert_of_mem h, List.filter_cons_of_neg (by simp [h]), List.filter_nil,
      List.append_nil]
  · rw [names_insert_of_not_mem h, List.filter_cons_of_pos (by simp [h]), List.filter_nil]

/-- An identity keeps the place of its first insertion. -/
theorem names_extend (s : IdentitySet) (is : List Identity) :
    (s.extend is).names = (s.names ++ is.map (·.name)).eraseDups := by
  induction is generalizing s with
  | nil =>
    rw [List.map_nil, List.append_nil, eraseDups_of_nodup (nodup_names s)]
    rfl
  | cons i is ih =>
    have hstep : s.extend (i :: is) = (s.insert i).extend is := rfl
    rw [hstep, ih, names_insert, eraseDups_append_left, List.append_assoc, List.map_cons,
      List.singleton_append]

theorem names_union (s t : IdentitySet) :
    (s.union t).names = (s.names ++ t.names).eraseDups :=
  names_extend s t.items

theorem names_ofList (is : List Identity) : (ofList is).names = (is.map (·.name)).eraseDups :=
  names_extend empty is

theorem names_singleton (i : Identity) : (singleton i).names = [i.name] :=
  names_insert_of_not_mem List.not_mem_nil

end Order

section Equality

variable {s t : IdentitySet}

theorem isSuperset_iff : s.isSuperset t = true ↔ t.names ⊆ s.names := by
  unfold isSuperset
  rw [List.all_eq_true]
  constructor
  · intro h name hname
    exact mem_names.2 (contains_iff.1 (h _ (mem_names.1 hname)))
  · intro h i hi
    exact contains_iff.2 (mem_names.1 (h (mem_names.2 hi)))

theorem length_names (s : IdentitySet) : s.names.length = s.size := List.length_map ..

/-- Of sets of one size, neither has a name more than the other: no name stands twice, so a set that
another one of its size lies within has no room for more. -/
theorem sameMembers_iff : s.sameMembers t = true ↔ ∀ name, name ∈ s.names ↔ name ∈ t.names := by
  rw [sameMembers, Bool.and_eq_true, beq_iff_eq, isSuperset_iff, ← length_names, ← length_names]
  constructor
  · rintro ⟨hsize, hsubset⟩ name
    have hperm : t.names.Perm s.names :=
      (List.subperm_of_subset (nodup_names t) hsubset).perm_of_length_le (Nat.le_of_eq hsize)
    exact hperm.mem_iff.symm
  · intro h
    have hperm : s.names.Perm t.names :=
      (List.perm_ext_iff_of_nodup (nodup_names s) (nodup_names t)).2 h
    exact ⟨hperm.length_eq, fun name hname => (h name).2 hname⟩

theorem mem_names_union {name : String} :
    name ∈ (s.union t).names ↔ name ∈ s.names ∨ name ∈ t.names := by
  rw [names_union, List.mem_eraseDups, List.mem_append]

theorem equivalence_sameMembers : Equivalence fun s t : IdentitySet => s.sameMembers t = true where
  refl _ := sameMembers_iff.2 fun _ => Iff.rfl
  symm h := sameMembers_iff.2 fun name => (sameMembers_iff.1 h name).symm
  trans h h' := sameMembers_iff.2 fun name =>
    (sameMembers_iff.1 h name).trans (sameMembers_iff.1 h' name)

/-- Neither size is asked for here. -/
theorem isSuperset_and_isSuperset (s t : IdentitySet) :
    (s.isSuperset t && t.isSuperset s) = s.sameMembers t := by
  rw [Bool.eq_iff_iff, Bool.and_eq_true, isSuperset_iff, isSuperset_iff, sameMembers_iff]
  constructor
  · rintro ⟨hst, hts⟩ name
    exact ⟨fun hs => hts hs, fun ht => hst ht⟩
  · intro h
    exact ⟨fun name ht => (h name).2 ht, fun name hs => (h name).1 hs⟩

theorem sameMembers_union_comm (s t : IdentitySet) :
    (s.union t).sameMembers (t.union s) = true := by
  rw [sameMembers_iff]
  intro name
  rw [mem_names_union, mem_names_union, or_comm]

theorem sameMembers_union_assoc (s t u : IdentitySet) :
    ((s.union t).union u).sameMembers (s.union (t.union u)) = true := by
  rw [sameMembers_iff]
  intro name
  simp only [mem_names_union, or_assoc]

theorem sameMembers_union_self (s : IdentitySet) : (s.union s).sameMembers s = true := by
  rw [sameMembers_iff]
  intro name
  rw [mem_names_union, or_self]

end Equality

section Runs

/-- Sets by name, and what can be done to one of them. -/
abbrev Shelf := String → IdentitySet

inductive Change where
  | insert (i : Identity)
  /-- The set is replaced by one with a single element. -/
  | renew (i : Identity)
  | extend (is : List Identity)
  /-- Another set of the shelf is put to it. -/
  | union (other : String)
  /-- The set is replaced by one that a text lists. -/
  | parse (text : String)

def Change.apply (shelf : Shelf) (s : IdentitySet) : Change → IdentitySet
  | insert i => (s.insertNew i).2
  | renew i => singleton i
  | extend is => s.extend is
  | union other => s.union (shelf other)
  | parse text => (parse? text).getD s

/-- The names that a text lists, repeated ones too. -/
def listed? (text : String) : Option (List String) := (Json.read? text).bind Datum.texts?

/-- The names that have come to a set since it was last replaced, each as often as it came. -/
def Change.told (logs : String → List String) (log : List String) : Change → List String
  | insert i => log ++ [i.name]
  | renew i => [i.name]
  | extend is => log ++ is.map (·.name)
  | union other => log ++ logs other
  | parse text => (listed? text).getD log

def change (shelf : Shelf) (c : String × Change) : Shelf :=
  fun name => if name = c.1 then c.2.apply shelf (shelf name) else shelf name

def record (logs : String → List String) (c : String × Change) : String → List String :=
  fun name => if name = c.1 then c.2.told logs (logs name) else logs name

/-- The sets after changes one after the other, from empty ones. -/
def changed (cs : List (String × Change)) : Shelf := cs.foldl change fun _ => empty

def recorded (cs : List (String × Change)) : String → List String := cs.foldl record fun _ => []

/-- A set lists the names that came to it, each where it came first. -/
def Lists (s : IdentitySet) (log : List String) : Prop := s.names = log.eraseDups

theorem lists_parse {text : String} {s : IdentitySet} {log : List String} (h : s.Lists log) :
    ((parse? text).getD s).Lists ((listed? text).getD log) := by
  have hparse : parse? text = (listed? text).map fun names => ofList (names.map Identity.mk) := by
    unfold parse? listed? ofDatum?
    cases Json.read? text <;> rfl
  rw [hparse]
  cases listed? text with
  | none => exact h
  | some names =>
    have hnames : (names.map Identity.mk).map (·.name) = names := by
      rw [List.map_map]
      exact List.map_id names
    show (ofList _).names = _
    rw [names_ofList, hnames]
    rfl

theorem Change.lists (c : Change) {shelf : Shelf} {logs : String → List String}
    (h : ∀ name, (shelf name).Lists (logs name)) (name : String) :
    (c.apply shelf (shelf name)).Lists (c.told logs (logs name)) := by
  have hself : (shelf name).names = (logs name).eraseDups := h name
  cases c with
  | insert i =>
    show ((shelf name).insert i).names = _
    rw [names_insert, hself, eraseDups_append_left]
    rfl
  | renew i =>
    show (singleton i).names = _
    rw [names_singleton]
    exact (eraseDups_of_nodup (List.pairwise_singleton ..)).symm
  | extend is =>
    show ((shelf name).extend is).names = _
    rw [names_extend, hself, eraseDups_append_left]
    rfl
  | union other =>
    have hother : (shelf other).names = (logs other).eraseDups := h other
    show ((shelf name).union (shelf other)).names = _
    rw [names_union, hself, hother, eraseDups_append_left, eraseDups_append_right]
    rfl
  | parse text => exact lists_parse (h name)

theorem lists_change {shelf : Shelf} {logs : String → List String}
    (h : ∀ name, (shelf name).Lists (logs name)) (c : String × Change) (name : String) :
    (change shelf c name).Lists (record logs c name) := by
  unfold change record
  split
  · exact c.2.lists h name
  · exact h name

theorem lists_changed (cs : List (String × Change)) (name : String) :
    (changed cs name).Lists (recorded cs name) := by
  have hrun : ∀ (shelf : Shelf) (logs : String → List String),
      (∀ name, (shelf name).Lists (logs name)) →
        ∀ name, (cs.foldl change shelf name).Lists (cs.foldl record logs name) := by
    induction cs with
    | nil => exact fun shelf logs h => h
    | cons c cs ih => exact fun shelf logs h => ih _ _ (lists_change h c)
  exact hrun (fun _ => empty) (fun _ => []) (fun _ => rfl) name

end Runs

/-- What insertion, union and the two ways to ask for an element tell of a set. -/
structure Ordered (s t : IdentitySet) (i : Identity) : Prop where
  known : (s.insertNew i).1 = false ↔ i.name ∈ s.names
  stays : (s.insertNew i).1 = false → (s.insertNew i).2 = s
  joins : (s.insertNew i).1 = true → (s.insertNew i).2.names = s.names ++ [i.name]
  union : (s.union t).names = s.names ++ t.names.filter (· ∉ s.names)
  contains : s.contains i = true ↔ i.name ∈ s.names
  containsName : ∀ name, s.containsName name = true ↔ name ∈ s.names

theorem ordered (s t : IdentitySet) (i : Identity) : s.Ordered t i := by
  have hcontains : s.contains i = true ↔ i.name ∈ s.names := contains_iff.trans mem_names.symm
  have hknown : (s.insertNew i).1 = false ↔ i.name ∈ s.names := by
    rw [← hcontains, insertNew, Bool.not_eq_false']
  refine ⟨hknown, ?_, ?_, ?_, hcontains, fun name => contains_iff.trans mem_names.symm⟩
  · intro h
    exact names_insert_of_mem (hknown.1 h)
  · intro h
    apply names_insert_of_not_mem
    intro hmem
    rw [hknown.2 hmem] at h
    cases h
  · rw [names_union, eraseDups_append_eq, eraseDups_of_nodup (nodup_names s),
      eraseDups_of_nodup (nodup_names t)]

/-- A set is a list without repetition of the names that came to it, in the order in which they came
first, whatever was done to it and to the others. Equality is that of the names: order does not
count, nor does the order in which sets are put together. -/
theorem first_insertion_remembered :
    (∀ cs name, (changed cs name).names.Nodup ∧
      (changed cs name).names = (recorded cs name).eraseDups) ∧
    (∀ s t i, Ordered s t i) ∧
    (∀ s t : IdentitySet, s.sameMembers t = true ↔ ∀ name, name ∈ s.names ↔ name ∈ t.names) ∧
    Equivalence (fun s t : IdentitySet => s.sameMembers t = true) ∧
    (∀ s t : IdentitySet, (s.isSuperset t && t.isSuperset s) = s.sameMembers t) ∧
    (∀ s t : IdentitySet, (s.union t).sameMembers (t.union s) = true) ∧
    (∀ s t u : IdentitySet, ((s.union t).union u).sameMembers (s.union (t.union u)) = true) ∧
    ∀ s : IdentitySet, (s.union s).sameMembers s = true := by
  refine ⟨?_, ordered, fun _ _ => sameMembers_iff, equivalence_sameMembers,
    isSuperset_and_isSuperset, sameMembers_union_comm, sameMembers_union_assoc,
    sameMembers_union_self⟩
  intro cs name
  exact ⟨nodup_names _, lists_changed cs name⟩

end IdentitySet

end Permits
