namespace Permits

/-- Why a call to the document store failed. The text of the first three comes from the store. -/
inductive StoreError where
  | alreadyExists (text : String)
  | notFound (text : String)
  | conflict (text : String)
  /-- An answer with a status that has no meaning of its own. -/
  | http (status : Nat) (error reason : String)
  /-- A request without an answer. -/
  | transport (text : String)
  | invalidResponse (text : String)
  | invalidDocument (text : String)
  | invalidUrl (text : String)
  | internal (text : String)
  deriving DecidableEq, Repr

namespace StoreError

def message : StoreError → String
  | alreadyExists text => s!"Database already exists: {text}"
  | notFound text => s!"Not found: {text}"
  | conflict text => s!"Document update conflict: {text}"
  | http status error reason => s!"Store returned {status} ({error}): {reason}"
  | transport text => s!"Transport error: {text}"
  | invalidResponse text => s!"Invalid response: {text}"
  | invalidDocument text => s!"Invalid document: {text}"
  | invalidUrl text => s!"Invalid URL: {text}"
  | internal text => s!"Internal error: {text}"

def isAlreadyExists : StoreError → Bool
  | alreadyExists _ => true
  | _ => false

def isNotFound : StoreError → Bool
  | notFound _ => true
  | _ => false

def isConflict : StoreError → Bool
  | conflict _ => true
  | _ => false

end StoreError

end Permits
