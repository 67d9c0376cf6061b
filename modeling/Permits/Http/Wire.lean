import Permits.Http.Message

namespace Permits.Http

def Request.endpoint? (r : Request) : Option (Url.Host × Nat) := do
  let a ← r.url.authority
  return (a.host, a.port.getD ((Url.defaultPort? r.url.scheme).getD 0))

def Request.hostHeader (r : Request) : String :=
  match r.url.authority with
  | some a => String.ofList ({ a with userinfo := [] } : Url.Authority).chars
  | none => ""

def Request.headers (r : Request) : List (String × String) :=
  [("host", r.hostHeader), ("authorization", r.authorization), ("accept", r.accept),
    ("connection", "close")] ++
  match r.body with
  | some body => [("content-type", "application/json"), ("content-length", toString body.utf8ByteSize)]
  | none => if r.method = .put then [("content-length", "0")] else []

def Request.wire (r : Request) : String :=
  let lines := s!"{r.method.word} {r.url.target} HTTP/1.1" ::
    r.headers.map fun (name, value) => s!"{name}: {value}"
  String.join (lines.map (· ++ "\r\n")) ++ "\r\n" ++ r.body.getD ""

namespace Wire

def line? : List UInt8 → Option (List UInt8 × List UInt8)
  | [] => none
  | 13 :: 10 :: rest => some ([], rest)
  | b :: rest => (line? rest).map fun (l, rest) => (b :: l, rest)

def chars (bs : List UInt8) : List Char := bs.map fun b => Char.ofNat b.toNat

/-- Splits the lines of a head off, up to the empty one. -/
def lines? : Nat → List UInt8 → Option (List (List Char) × List UInt8)
  | 0, _ => none
  | fuel + 1, bs => do
    let (l, rest) ← line? bs
    if l.isEmpty then return ([], rest)
    else
      let (ls, rest) ← lines? fuel rest
      return (chars l :: ls, rest)

def number (base : Nat) (cs : List Char) : Option Nat :=
  let ds := (cs.map Text.hexDigit?).takeWhile (·.any (· < base))
  if ds.isEmpty then none else some (ds.foldl (fun n d => base * n + d.getD 0) 0)

def status? (l : List Char) : Option Nat := number 10 ((l.dropWhile (· ≠ ' ')).drop 1)

/-- The value of a header, whose name counts in either case. -/
def header? (name : String) (ls : List (List Char)) : Option (List Char) :=
  (ls.find? fun l => (l.takeWhile (· ≠ ':')).map Text.asciiLower = name.toList).map fun l =>
    ((l.dropWhile (· ≠ ':')).drop 1).dropWhile (· = ' ')

/-- A body that comes in pieces, each with its size in front. -/
def unchunk? : Nat → List UInt8 → Option (List UInt8)
  | 0, _ => none
  | fuel + 1, bs => do
    let (l, rest) ← line? bs
    let n ← number 16 (chars l)
    if n = 0 then return []
    else if rest.length < n + 2 then none
    else return rest.take n ++ (← unchunk? fuel (rest.drop (n + 2)))

/-- The body of an answer with a head, out of the bytes that follow the head. -/
def body? (head : List (List Char)) (bs : List UInt8) : Option (List UInt8) :=
  match header? "transfer-encoding" head, (header? "content-length" head).bind (number 10) with
  | some _, _ => unchunk? (bs.length + 1) bs
  | none, some n => if bs.length < n then none else some (bs.take n)
  | none, none => some bs

end Wire

def Reply.ofBytes (bytes : ByteArray) : Reply :=
  let bs := bytes.toList
  let found := do
    let (head, rest) ← Wire.lines? (bs.length + 1) bs
    return (head, ← Wire.status? (head.headD []), rest)
  match found with
  | none => .unanswered
  | some (head, status, rest) =>
    match Wire.body? head rest with
    | none => .answered status .cut
    | some content =>
      match String.fromUTF8? ⟨content.toArray⟩ with
      | some text => .answered status (.text text)
      | none => .answered status .notText

end Permits.Http
