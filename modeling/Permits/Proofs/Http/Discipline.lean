import Permits.Http.Client
import Permits.Proofs.Data.Fallible
import Permits.Proofs.Provision.Calls

namespace Permits.Http

abbrev Exchange := Request × Reply

variable {σ : Type}

/-- A link that keeps what goes over it. -/
def recording (send : Request → σ → Reply × σ) (r : Request) (x : σ × List Exchange) :
    Reply × σ × List Exchange :=
  ((send r x.1).1, (send r x.1).2, x.2 ++ [(r, (send r x.1).1)])

/-- The revision that a reply to a reading gives to write over. There is none where the document is
missing or has none; a reply that is neither a 404 nor a document gives nothing. -/
def Reply.basis? : Reply → Option (Option String)
  | .unanswered => none
  | .answered status body =>
    if status = 404 then some none
    else if 200 ≤ status ∧ status < 300 then
      match body.json? with
      | some (.object ms) =>
        match Keyed.find? ms "_rev" with
        | none => some none
        | some (.string rev) => some (some rev)
        | some _ => none
      | _ => none
    else none

/-- How a write over a revision ends, by what it is answered with. A 409 says that another write
came first. -/
def Reply.outcome (step : Step) (rev : Option String) : Reply → Except StoreError Status
  | .unanswered => .error (.transport "error sending request")
  | .answered status body =>
    if 200 ≤ status ∧ status < 300 then
      match step.2 with
      | none => .ok .removed
      | some _ => .ok (if rev.isSome then .updated else .created)
    else if status = 409 then .ok .converged
    else .error (errorOf status body)

namespace Client

end Client

section Replies

variable {status : Nat} {body : Body}

end Replies

section Walk

variable {c : Client} {db : String} {step : Step}

end Walk

end Permits.Http
