import Permits.Data.Decode
import Permits.Json.Reader
import Permits.Json.Printer
import Permits.Text.Quoted

namespace Permits

/-- A name that the store knows a principal by. -/
structure Identity where
  name : String
  deriving DecidableEq, Repr

namespace Identity

/-- Neither empty nor with a control character. -/
def isWellFormed (i : Identity) : Bool := i.name ≠ "" && !i.name.toList.any Text.isControl

def json (i : Identity) : Json := .string i.name

def described (i : Identity) : String := s!"Identity({Text.quoted i.name})"

/-- The order of the names, code point by code point. -/
def le (a b : Identity) : Bool := !(b.name < a.name)

end Identity

/-- Identities without repetition, in the order of their first insertion. -/
structure IdentitySet where
  items : List Identity
  nodup : items.Nodup
  deriving DecidableEq

namespace IdentitySet

def empty : IdentitySet := ⟨[], List.nodup_nil⟩

instance : Inhabited IdentitySet := ⟨empty⟩

def contains (s : IdentitySet) (i : Identity) : Bool := i ∈ s.items

def containsName (s : IdentitySet) (name : String) : Bool := s.contains ⟨name⟩

/-- Adds at the end what is not there yet. -/
def insert (s : IdentitySet) (i : Identity) : IdentitySet :=
  if h : i ∈ s.items then s
  else ⟨s.items ++ [i], List.nodup_append.2
    ⟨s.nodup, List.nodup_cons.2 ⟨List.not_mem_nil, List.nodup_nil⟩,
      fun _ ha _ hb e => h (List.mem_singleton.1 hb ▸ e ▸ ha)⟩⟩

/-- Inserts, and says whether the identity is new. -/
def insertNew (s : IdentitySet) (i : Identity) : Bool × IdentitySet :=
  (!s.contains i, s.insert i)

def singleton (i : Identity) : IdentitySet := empty.insert i

def extend (s : IdentitySet) (is : List Identity) : IdentitySet := is.foldl insert s

def ofList (is : List Identity) : IdentitySet := empty.extend is

def size (s : IdentitySet) : Nat := s.items.length

def isEmpty (s : IdentitySet) : Bool := s.items.isEmpty

def names (s : IdentitySet) : List String := s.items.map (·.name)

/-- The first set in its order, then what only the second holds. -/
def union (s t : IdentitySet) : IdentitySet := s.extend t.items

def isSuperset (s t : IdentitySet) : Bool := t.items.all s.contains

/-- Equality as sets: the order does not count. -/
def sameMembers (s t : IdentitySet) : Bool := s.size == t.size && s.isSuperset t

def json (s : IdentitySet) : Json := .texts s.names

def ofDatum? (d : Datum) : Option IdentitySet :=
  (Datum.texts? d).map fun names => ofList (names.map Identity.mk)

/-- Reads a JSON list of names. -/
def parse? (text : String) : Option IdentitySet := (Json.read? text).bind ofDatum?

def described (s : IdentitySet) : String :=
  "\x7b" ++ String.intercalate ", " (s.items.map Identity.described) ++ "\x7d"

@[simp] theorem mem_insert {s : IdentitySet} {i j : Identity} :
    j ∈ (s.insert i).items ↔ j ∈ s.items ∨ j = i := by
  unfold insert
  split
  · next h => exact ⟨.inl, fun h' => h'.elim id (· ▸ h)⟩
  · simp

theorem insert_of_mem {s : IdentitySet} {i : Identity} (h : i ∈ s.items) : s.insert i = s := by
  simp [insert, h]

@[simp] theorem mem_extend {s : IdentitySet} {is : List Identity} {j : Identity} :
    j ∈ (s.extend is).items ↔ j ∈ s.items ∨ j ∈ is := by
  induction is generalizing s with
  | nil => simp [extend]
  | cons i is ih =>
    have := ih (s := s.insert i)
    simp only [extend, List.foldl_cons] at this ⊢
    simp [this, or_assoc]

@[simp] theorem mem_singleton {i j : Identity} : j ∈ (singleton i).items ↔ j = i := by
  simp [singleton, empty]

@[simp] theorem mem_union {s t : IdentitySet} {j : Identity} :
    j ∈ (s.union t).items ↔ j ∈ s.items ∨ j ∈ t.items := by
  simp [union]

end IdentitySet

end Permits
