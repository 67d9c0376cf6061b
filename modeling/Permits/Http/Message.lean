import Permits.Url.Basic

namespace Permits.Http

inductive Method where
  | get
  | put
  | delete
  deriving DecidableEq, Repr

def Method.word : Method → String
  | get => "GET"
  | put => "PUT"
  | delete => "DELETE"

/-- A request; a body is always JSON. -/
structure Request where
  method : Method
  url : Url
  authorization : String
  accept : String := "application/json"
  body : Option String := none
  deriving DecidableEq, Repr

def Request.contentType? (r : Request) : Option String := r.body.map fun _ => "application/json"

/-- What is known of the body of an answer. -/
inductive Body where
  | text (content : String)
  /-- The bytes are not UTF-8. -/
  | notText
  /-- The connection ended before the body did. -/
  | cut
  deriving DecidableEq, Repr

inductive Reply where
  | unanswered
  | answered (status : Nat) (body : Body)
  deriving DecidableEq, Repr

end Permits.Http
