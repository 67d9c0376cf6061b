namespace Permits

/-- Values by name. `put` keeps the names in increasing order, `putLast` in the order in which they
came. -/
abbrev Keyed (α : Type) := List (String × α)

namespace Keyed

variable {α : Type}

def find? : Keyed α → String → Option α
  | [], _ => none
  | (k, v) :: rest, key => if k = key then some v else find? rest key

def contains (m : Keyed α) (key : String) : Bool := (m.find? key).isSome

def erase (m : Keyed α) (key : String) : Keyed α := m.filter (·.1 ≠ key)

/-- Sets the value of a name: in its place if the name is there, else before the first greater
name. -/
def put : Keyed α → String → α → Keyed α
  | [], key, value => [(key, value)]
  | (k, v) :: rest, key, value =>
    if k = key then (key, value) :: rest
    else if key < k then (key, value) :: (k, v) :: rest
    else (k, v) :: put rest key value

/-- Sets the value of a name: in its place if the name is there, else last. -/
def putLast : Keyed α → String → α → Keyed α
  | [], key, value => [(key, value)]
  | (k, v) :: rest, key, value =>
    if k = key then (key, value) :: rest else (k, v) :: putLast rest key value

def keys (m : Keyed α) : List String := m.map (·.1)

@[simp] theorem find?_nil (key : String) : find? ([] : Keyed α) key = none := rfl

@[simp] theorem find?_erase_self (m : Keyed α) (key : String) : (m.erase key).find? key = none := by
  induction m with
  | nil => rfl
  | cons e rest ih =>
    obtain ⟨k, v⟩ := e
    by_cases h : k = key
    · simpa [erase, h] using ih
    · simpa [erase, find?, h] using ih

theorem find?_erase_of_ne (m : Keyed α) {key other : String} (h : other ≠ key) :
    (m.erase key).find? other = m.find? other := by
  induction m with
  | nil => rfl
  | cons e rest ih =>
    obtain ⟨k, v⟩ := e
    by_cases hk : k = key
    · subst hk
      simpa [erase, find?, Ne.symm h] using ih
    · by_cases ho : k = other
      · subst ho
        simp [erase, find?, h]
      · simpa [erase, find?, hk, ho] using ih

@[simp] theorem find?_put_self (m : Keyed α) (key : String) (value : α) :
    (m.put key value).find? key = some value := by
  induction m with
  | nil => simp [put, find?]
  | cons e rest ih =>
    obtain ⟨k, v⟩ := e
    unfold put
    split
    · simp [find?]
    · split
      · simp [find?]
      · next h _ => simpa [find?, h] using ih

theorem find?_put_of_ne (m : Keyed α) {key other : String} (value : α) (h : other ≠ key) :
    (m.put key value).find? other = m.find? other := by
  induction m with
  | nil => simp [put, find?, h.symm]
  | cons e rest ih =>
    obtain ⟨k, v⟩ := e
    unfold put
    split
    · next hk => simp [find?, h.symm, hk]
    · split
      · simp [find?, h.symm]
      · by_cases ho : k = other
        · simp [find?, ho]
        · simpa [find?, ho] using ih

@[simp] theorem find?_putLast_self (m : Keyed α) (key : String) (value : α) :
    (m.putLast key value).find? key = some value := by
  induction m with
  | nil => simp [putLast, find?]
  | cons e rest ih =>
    obtain ⟨k, v⟩ := e
    unfold putLast
    split
    · simp [find?]
    · next h => simpa [find?, h] using ih

theorem find?_putLast_of_ne (m : Keyed α) {key other : String} (value : α) (h : other ≠ key) :
    (m.putLast key value).find? other = m.find? other := by
  induction m with
  | nil => simp [putLast, find?, h.symm]
  | cons e rest ih =>
    obtain ⟨k, v⟩ := e
    unfold putLast
    split
    · next hk => simp [find?, h.symm, hk]
    · by_cases ho : k = other
      · simp [find?, ho]
      · simpa [find?, ho] using ih

end Keyed

end Permits
