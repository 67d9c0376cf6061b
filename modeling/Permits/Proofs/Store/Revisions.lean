import Permits.Proofs.Store.Representation
import Permits.Proofs.Text.Digits

namespace Permits

namespace MemoryStore

/-- The number that a revision begins with. -/
def revisionNumber (rev : String) : Nat := Text.ofDigits (Json.spanDigits rev.toList).1

theorem revisionNumber_revision (n : Nat) (body : Members) (deleted : Bool) :
    revisionNumber (revision n body deleted) = n := by
  have hparts : revision n body deleted = n.repr ++ "-" ++ contentHash body deleted := rfl
  have hchars : (revision n body deleted).toList =
      Nat.toDigits 10 n ++ '-' :: (contentHash body deleted).toList := by
    rw [hparts, String.toList_append, String.toList_append, Nat.toList_repr, List.append_assoc]
    rfl
  have hdigits : ∀ c ∈ Nat.toDigits 10 n, c.isDigit = true :=
    fun c hc => Nat.isDigit_of_mem_toDigits (by decide) (by decide) hc
  rw [revisionNumber, hchars, Text.spanDigits_append hdigits rfl]
  exact Text.ofDigits_toDigits n

variable {s : MemoryStore} {db id : String}

/-- How often a document has been written, deletions too. -/
def generation (s : MemoryStore) (db id : String) : Nat :=
  ((s.stored db id).map (·.generation)).getD 0

theorem rev_eq_of_reachable (h : Reachable s) {doc : Stored} (hdoc : s.stored db id = some doc) :
    doc.rev = revision doc.generation doc.body doc.deleted :=
  ((represented_of_reachable h).kept_of_stored hdoc).rev

/-- The number of the revision of a document, zero where there never was one. -/
def versionNumber (s : MemoryStore) (db id : String) : Nat :=
  (s.revisionOf db id).elim 0 revisionNumber

theorem versionNumber_eq (h : ∀ doc, s.stored db id = some doc →
    doc.rev = revision doc.generation doc.body doc.deleted) :
    s.versionNumber db id = s.generation db id := by
  rw [versionNumber, revisionOf_eq, generation]
  cases hdoc : s.stored db id with
  | none => rfl
  | some doc =>
    simp only [Option.map_some, Option.elim_some, Option.getD_some, h doc hdoc]
    exact revisionNumber_revision ..

end MemoryStore

end Permits
