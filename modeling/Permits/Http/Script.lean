import Permits.Http.Message

namespace Permits.Http

/-- A server that gives the replies of a list, one for each request, and keeps the requests. One that
is not listening receives nothing. -/
structure Script where
  replies : List Reply
  listening : Bool := true
  received : List Request := []

/-- After the last reply every answer is an internal error without a body. -/
def Script.send (r : Request) (s : Script) : Reply × Script :=
  if !s.listening then (.unanswered, s)
  else
    let s := { s with received := s.received ++ [r] }
    match s.replies with
    | [] => (.answered 500 (.text ""), s)
    | reply :: rest => (reply, { s with replies := rest })

end Permits.Http
