import Permits.Config.Basic
import Permits.Http.Message
import Permits.Json.Reader
import Permits.Store.Task
import Permits.Text.Base64
import Permits.Url.Reader

namespace Permits.Http

def Body.json? : Body → Option Json
  | text content => Json.parse? content
  | notText => none
  | cut => none

/-- What a refusal says about itself: a name for the error, and a reason. Both are empty if the body
has another form. -/
def Body.explanation (b : Body) : String × String :=
  let read (content : String) : Option (String × String) := do
    let look ← (← Json.read? content).fields? Datum.jsonFormat ["error", "reason"]
    let error ← Datum.field look "error" "" Datum.text?
    let reason ← Datum.field look "reason" "" Datum.text?
    return (error, reason)
  match b with
  | text content => (read content).getD ("", "")
  | _ => ("", "")

def errorOf (status : Nat) (body : Body) : StoreError :=
  let (error, reason) := body.explanation
  if status = 412 ∧ (error = "file_exists" ∨ error = "") then .alreadyExists reason
  else if status = 404 then .notFound reason
  else if status = 409 then .conflict reason
  else .http status error reason

def Reply.success : Reply → Except StoreError Body
  | unanswered => .error (.transport "error sending request")
  | answered status body =>
    if 200 ≤ status ∧ status < 300 then .ok body else .error (errorOf status body)

def Body.value (b : Body) : Except StoreError Json :=
  match b with
  | cut => .error (.transport "request or response body error")
  | b =>
    match b.json? with
    | some v => .ok v
    | none => .error (.invalidResponse "error decoding response body")

def Reply.document (id : String) (r : Reply) : Except StoreError Document := do
  Document.ofJson id (← (← r.success).value)

/-- The revision that a writing is answered with; none if the answer does not tell. -/
def Reply.revision (r : Reply) : Except StoreError (Option String) := do
  return ((← r.success).json?.bind (·.get? "rev")).bind Json.text?

def interpret : (c : StoreCall) → Reply → c.Answer
  | .create _, r => r.success.map fun _ => ()
  | .destroy _, r => r.success.map fun _ => ()
  | .get _ id, r => r.document id
  | .insert _ _ _ _, r => r.revision

def failed : (c : StoreCall) → StoreError → c.Answer
  | .create _, e => .error e
  | .destroy _, e => .error e
  | .get _ _, e => .error e
  | .insert _ _ _ _, e => .error e

structure Client where
  base : Url
  username : String
  password : String

namespace Client

def ofSettings (s : StoreSettings) : Except StoreError Client :=
  match Url.read s.baseUrl with
  | .error e => .error (.invalidUrl s!"{s.baseUrl}: {e.message}")
  | .ok .pathless => .error (.invalidUrl s.baseUrl)
  | .ok (.url u) => .ok ⟨u, s.username, s.password⟩

/-- For messages: the password is not shown. -/
def described (c : Client) : String :=
  "CouchClient \x7b base: " ++ Text.quoted c.base.text ++ ", username: " ++
    Text.quoted c.username ++ ", .. \x7d"

def databaseUrl (c : Client) (db : String) : Except StoreError Url :=
  if db = "" then .error (.invalidUrl "empty database name") else .ok (c.base.below [db])

/-- The name of a design document without what marks it as one. -/
def designName? (id : String) : Option String :=
  let mark := "_design/".toList
  let name := id.toList.drop mark.length
  if mark.isPrefixOf id.toList && !name.isEmpty then some (String.ofList name) else none

/-- A design document lies below a segment of its own; any other identifier is one segment. -/
def documentUrl (c : Client) (db id : String) : Except StoreError Url :=
  if db = "" ∨ id = "" then
    .error (.invalidUrl
      s!"empty database or document id: {Text.quoted db}/{Text.quoted id}")
  else
    match designName? id with
    | some name => .ok (c.base.below [db, "_design", name])
    | none => .ok (c.base.below [db, id])

def authorization (c : Client) : String :=
  "Basic " ++ String.ofList (Text.base64 (c.username ++ ":" ++ c.password).toUTF8.toList)

def request (c : Client) (method : Method) (url : Url) (body : Option String := none) : Request :=
  { method, url, authorization := c.authorization, body }

def requestFor (c : Client) : StoreCall → Except StoreError Request
  | .create db => do return c.request .put (← c.databaseUrl db)
  | .destroy db => do return c.request .delete (← c.databaseUrl db)
  | .get db id => do return c.request .get (← c.documentUrl db id)
  | .insert db id body rev => do
    let url ← c.documentUrl db id
    let members ← stamped rev body
    return c.request .put url (some (Json.object members).compact)

/-- The store at the other end of a link that carries requests. A call that makes no request does not
touch the link. -/
def service (c : Client) (send : Request → σ → Reply × σ) : Service σ := fun call s =>
  match c.requestFor call with
  | .error e => (failed call e, s)
  | .ok r =>
    let (reply, s) := send r s
    (interpret call reply, s)

end Client

end Permits.Http
