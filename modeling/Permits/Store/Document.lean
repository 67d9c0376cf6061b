import Permits.Store.Error
import Permits.Json.Printer

namespace Permits

def securityId : String := "_security"

/-- A document as the store hands it out. Its revision stands apart from its body; a document that
the store keeps no versions of has none. -/
structure Document where
  id : String
  rev : Option String
  body : Members

namespace Document

/-- Takes identifier and revision out of the value that a store sent. -/
def ofJson (id : String) : Json → Except StoreError Document
  | .object ms =>
    let rest := (Keyed.erase ms "_rev").erase "_id"
    match Keyed.find? ms "_rev" with
    | none => .ok ⟨id, none, rest⟩
    | some (.string rev) => .ok ⟨id, some rev, rest⟩
    | some v => .error (.invalidResponse s!"document {id} has non-string _rev: {v.compact}")
  | _ => .error (.invalidResponse s!"document {id} is not a JSON object")

end Document

/-- The members of a body to be written, with the revision that it replaces. -/
def stamped (rev : Option String) : Json → Except StoreError Members
  | .object ms =>
    match rev with
    | none => .ok ms
    | some rev => .ok (Keyed.put ms "_rev" (.string rev))
  | v => .error (.invalidDocument s!"expected a JSON object, got {v.compact}")

end Permits
